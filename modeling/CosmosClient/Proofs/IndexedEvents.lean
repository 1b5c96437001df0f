import Mathlib
import CosmosClient.Proofs.ReportJson

/-!
# The index of events

The index holds under each kind and key the values that a scan of the events finds, in their order,
and nothing else. Every log carries the index of its own events, however it was made, so that looking
values up in logs is the same as scanning the events of all of them.
-/

namespace CosmosClient

/-- The values of a kind and key, found by going through all attributes of all events. -/
def Event.scan (events : List Event) (kind key : String) : List String :=
  events.flatMap fun e =>
    e.attributes.filterMap fun a => if e.kind = kind ∧ a.key = key then some a.value else none

/-- The log carries the index of its own events. -/
def MessageLog.Indexed (l : MessageLog) : Prop :=
  l.byKind = EventIndex.ofEvents l.events

/-- The ways in which logs are made. -/
inductive MessageLog.Made : MessageLog → Prop where
  | new (index : UInt32) (log : String) (events : List Event) : Made (.ofEvents index log events)
  | fromMessage (p : Proto.MessageLog) : Made (.ofProto p)
  | fromMessages {ps : List Proto.MessageLog} {logs : List MessageLog} {l : MessageLog}
      (hread : listOfProto ps = some logs) (hl : l ∈ logs) : Made l
  | fromDocument {j : Json} {l : MessageLog} (hread : ofJson j = .ok l) : Made l
  | fromDocuments {js : List Json} {logs : List MessageLog} {l : MessageLog}
      (hread : listOfJson js = .ok (some logs)) (hl : l ∈ logs) : Made l

namespace EventIndex

variable {β : Type}

/-- Keys in order, each once. -/
def Sorted (entries : List (String × β)) : Prop :=
  entries.Pairwise fun a b => a.1 < b.1

/-- Kinds and keys stand in order and each once, and none stands without values. -/
structure Ordered (index : EventIndex) : Prop where
  kinds : Sorted index.toList
  keys : ∀ entry ∈ index.toList, Sorted entry.2
  keys_ne_nil : ∀ entry ∈ index.toList, entry.2 ≠ []
  values_ne_nil : ∀ entry ∈ index.toList, ∀ values ∈ entry.2, values.2 ≠ []

/-- The attributes of events one after the other, each with the kind of its event. -/
def attributes (events : List Event) : List (String × Attribute) :=
  events.flatMap fun e => e.attributes.map fun a => (e.kind, a)

/-- The values among attributes with their kinds. -/
def valuesIn (attributes : List (String × Attribute)) (kind key : String) : List String :=
  attributes.filterMap fun (k, a) => if k = kind ∧ a.key = key then some a.value else none

/-- The index holds exactly the values of attributes with their kinds. -/
structure Holds (index : EventIndex) (attributes : List (String × Attribute)) : Prop where
  ordered : index.Ordered
  get_eq : ∀ kind key, (index.get? kind key).getD [] = valuesIn attributes kind key
  isSome_iff : ∀ kind key, (index.get? kind key).isSome ↔ valuesIn attributes kind key ≠ []

end EventIndex
end CosmosClient

namespace CosmosClient.Proofs
open EventIndex

variable {β : Type}

lemma lookup?_cons (key : String) (entry : String × β) (entries : List (String × β)) :
    lookup? key (entry :: entries) = if entry.1 = key then some entry.2 else lookup? key entries := by
  by_cases h : entry.1 = key <;> simp [lookup?, h]

lemma lookup?_of_lt {key : String} {entries : List (String × β)} (h : ∀ e ∈ entries, key < e.1) :
    lookup? key entries = none := by
  rw [lookup?, Option.map_eq_none_iff, List.find?_eq_none]
  intro e he heq
  exact String.lt_irrefl _ (beq_iff_eq.1 heq ▸ h e he)

lemma mem_of_lookup? {key : String} {entries : List (String × β)} {value : β}
    (h : lookup? key entries = some value) : (key, value) ∈ entries := by
  obtain ⟨entry, hfind, rfl⟩ := Option.map_eq_some_iff.1 h
  have hkey : entry.1 = key := by simpa using List.find?_some hfind
  rw [← hkey]
  exact List.mem_of_find?_eq_some hfind

variable {key : String} {start : β} {change : β → β} {entries : List (String × β)}

lemma mem_update {entry : String × β} (h : entry ∈ update key start change entries) :
    entry ∈ entries ∨ entry.1 = key ∧ ∃ value, entry.2 = change value ∧
      (value = start ∨ (key, value) ∈ entries) := by
  induction entries with
  | nil =>
    obtain rfl := List.mem_singleton.1 h
    exact .inr ⟨rfl, start, rfl, .inl rfl⟩
  | cons e entries ih =>
    rw [update] at h
    split at h
    next =>
      rcases List.mem_cons.1 h with rfl | h
      · exact .inr ⟨rfl, start, rfl, .inl rfl⟩
      · exact .inl h
    next =>
      split at h
      next hkey =>
        rcases List.mem_cons.1 h with rfl | h
        · exact .inr ⟨hkey.symm, e.2, rfl, .inr (by simp [hkey])⟩
        · exact .inl (List.mem_cons_of_mem _ h)
      next =>
        rcases List.mem_cons.1 h with rfl | h
        · exact .inl List.mem_cons_self
        · rcases ih h with h | ⟨hkey, value, hvalue, hfrom⟩
          · exact .inl (List.mem_cons_of_mem _ h)
          · exact .inr ⟨hkey, value, hvalue, hfrom.imp_right (List.mem_cons_of_mem _)⟩

lemma update_sorted (h : Sorted entries) : Sorted (update key start change entries) := by
  induction entries with
  | nil => exact List.pairwise_singleton _ _
  | cons e entries ih =>
    obtain ⟨he, hentries⟩ := List.pairwise_cons.1 h
    rw [update]
    split
    next hlt =>
      refine List.pairwise_cons.2 ⟨List.forall_mem_cons.2 ⟨hlt, ?_⟩, h⟩
      intro x hx
      exact String.lt_trans hlt (he x hx)
    next hge =>
      split
      next => exact List.pairwise_cons.2 ⟨he, hentries⟩
      next hne =>
        refine List.pairwise_cons.2 ⟨?_, ih hentries⟩
        intro x hx
        rcases mem_update hx with hx | ⟨hkey, -⟩
        · exact he x hx
        · rw [hkey]
          have hle : e.1 ≤ key := String.not_lt.1 hge
          apply Decidable.byContradiction
          intro hnot
          exact hne (String.le_antisymm (String.not_lt.1 hnot) hle)

lemma update_ne_nil : update key start change entries ≠ [] := by
  cases entries with
  | nil => simp [update]
  | cons e entries =>
    rw [update]
    split
    · simp
    · split <;> simp

/-- Only the value of the key changes. -/
lemma lookup?_update (h : Sorted entries) (other : String) :
    lookup? other (update key start change entries) =
      if key = other then some (change ((lookup? key entries).getD start))
      else lookup? other entries := by
  induction entries with
  | nil => rw [update, lookup?_cons]; rfl
  | cons e entries ih =>
    obtain ⟨he, hentries⟩ := List.pairwise_cons.1 h
    rw [update]
    split
    next hlt =>
      have hnone : lookup? key (e :: entries) = none :=
        lookup?_of_lt (List.forall_mem_cons.2 ⟨hlt, fun x hx => String.lt_trans hlt (he x hx)⟩)
      rw [lookup?_cons, hnone]
      rfl
    next =>
      split
      next hkey =>
        rw [lookup?_cons, lookup?_cons, lookup?_cons, ← hkey, if_pos rfl]
        split <;> rfl
      next hkey =>
        rw [lookup?_cons, lookup?_cons, lookup?_cons, ih hentries, if_neg (Ne.symm hkey)]
        by_cases hother : e.1 = other
        · rw [if_pos hother, if_pos hother, if_neg fun heq => hkey (heq.trans hother.symm)]
        · rw [if_neg hother, if_neg hother]

/-- The keys of a kind, none if the kind is new. -/
lemma keys_of_kind {index : EventIndex} (h : index.Ordered) (kind : String) :
    Sorted ((lookup? kind index.toList).getD []) := by
  cases hkind : lookup? kind index.toList with
  | none => exact List.Pairwise.nil
  | some keys => exact h.keys _ (mem_of_lookup? hkind)

lemma ordered_add {index : EventIndex} (h : index.Ordered) (kind : String) (a : Attribute) :
    (index.add kind a).Ordered := by
  have hfrom {entry : String × List (String × List String)}
      (hentry : entry ∈ (index.add kind a).toList) : entry ∈ index.toList ∨
        ∃ keys, entry.2 = update a.key [] (· ++ [a.value]) keys ∧
          (keys = [] ∨ (kind, keys) ∈ index.toList) :=
    (mem_update hentry).imp_right fun hnew => hnew.2
  refine ⟨update_sorted h.kinds, ?_, ?_, ?_⟩
  · intro entry hentry
    rcases hfrom hentry with hold | ⟨keys, hkeys, rfl | hold⟩
    · exact h.keys _ hold
    · exact hkeys ▸ update_sorted List.Pairwise.nil
    · exact hkeys ▸ update_sorted (h.keys _ hold)
  · intro entry hentry
    rcases hfrom hentry with hold | ⟨keys, hkeys, -⟩
    · exact h.keys_ne_nil _ hold
    · exact hkeys ▸ update_ne_nil
  · intro entry hentry values hvalues
    rcases hfrom hentry with hold | ⟨keys, hkeys, hkeysFrom⟩
    · exact h.values_ne_nil _ hold _ hvalues
    · rw [hkeys] at hvalues
      rcases mem_update hvalues with hvalues | ⟨-, before, hbefore, -⟩
      · rcases hkeysFrom with rfl | hold
        · exact absurd hvalues List.not_mem_nil
        · exact h.values_ne_nil _ hold _ hvalues
      · rw [hbefore]
        simp

lemma get?_add {index : EventIndex} (h : index.Ordered) (kind : String) (a : Attribute)
    (other key : String) :
    (index.add kind a).get? other key =
      if kind = other ∧ a.key = key then some ((index.get? other key).getD [] ++ [a.value])
      else index.get? other key := by
  rw [EventIndex.get?, EventIndex.get?, EventIndex.add, lookup?_update h.kinds]
  by_cases hkind : kind = other
  · subst hkind
    rw [if_pos rfl, Option.bind_some, lookup?_update (keys_of_kind h kind)]
    cases hkeys : lookup? kind index.toList with
    | none => simp [lookup?]
    | some keys =>
      simp only [Option.getD_some, Option.bind_some, true_and]
      by_cases hkey : a.key = key
      · rw [if_pos hkey, if_pos hkey, hkey]
      · rw [if_neg hkey, if_neg hkey]
  · rw [if_neg hkind, if_neg fun hboth => hkind hboth.1]

lemma valuesIn_append (front back : List (String × Attribute)) (kind key : String) :
    valuesIn (front ++ back) kind key = valuesIn front kind key ++ valuesIn back kind key :=
  List.filterMap_append

/-- An attribute adds its value behind those of its kind and key. -/
lemma holds_add {index : EventIndex} {attributes : List (String × Attribute)}
    (h : index.Holds attributes) (kind : String) (a : Attribute) :
    (index.add kind a).Holds (attributes ++ [(kind, a)]) := by
  have hlast (other key : String) : valuesIn (attributes ++ [(kind, a)]) other key =
      if kind = other ∧ a.key = key then valuesIn attributes other key ++ [a.value]
      else valuesIn attributes other key := by
    rw [valuesIn_append]
    by_cases hboth : kind = other ∧ a.key = key <;> simp [valuesIn, hboth]
  refine ⟨ordered_add h.ordered kind a, ?_, ?_⟩
  · intro other key
    rw [get?_add h.ordered, hlast, ← h.get_eq]
    split <;> rfl
  · intro other key
    rw [get?_add h.ordered, hlast]
    split
    next => simp
    next => exact h.isSome_iff other key

lemma ofEvents_eq (events : List Event) :
    ofEvents events = (attributes events).foldl (fun index p => index.add p.1 p.2) empty := by
  rw [ofEvents, attributes, List.foldl_flatMap]
  simp only [List.foldl_map]

lemma holds_all (attributes : List (String × Attribute)) :
    (attributes.foldl (fun index p => index.add p.1 p.2) empty).Holds attributes := by
  induction attributes using List.reverseRecOn with
  | nil => exact ⟨⟨List.Pairwise.nil, by simp [empty], by simp [empty], by simp [empty]⟩,
      fun _ _ => rfl, by simp [EventIndex.get?, lookup?, empty, valuesIn]⟩
  | append_singleton attributes p ih =>
    rw [List.foldl_append]
    exact holds_add ih p.1 p.2

lemma holds_ofEvents (events : List Event) : (ofEvents events).Holds (attributes events) := by
  rw [ofEvents_eq]
  exact holds_all _

lemma valuesIn_attributes (events : List Event) (kind key : String) :
    valuesIn (attributes events) kind key = Event.scan events kind key := by
  rw [valuesIn, attributes, Event.scan, List.filterMap_flatMap]
  simp only [List.filterMap_map, Function.comp_def]

lemma scan_ne_nil_iff (events : List Event) (kind key : String) :
    Event.scan events kind key ≠ [] ↔
      ∃ e ∈ events, e.kind = kind ∧ ∃ a ∈ e.attributes, a.key = key := by
  simp only [Event.scan, ne_eq, List.flatMap_eq_nil_iff, List.filterMap_eq_nil_iff]
  push Not
  constructor
  · rintro ⟨e, he, a, ha, hsome⟩
    have hboth : e.kind = kind ∧ a.key = key := by
      by_contra hnot
      exact hsome (if_neg hnot)
    exact ⟨e, he, hboth.1, a, ha, hboth.2⟩
  · rintro ⟨e, he, hkind, a, ha, hkey⟩
    exact ⟨e, he, a, ha, by simp [hkind, hkey]⟩

lemma values_of_events (info : TxInfo) (h : info.logs = none) (kind key : String) :
    info.values kind key = Event.scan info.events kind key := by
  rw [TxInfo.values, h]
  show (info.events.filter fun e => e.kind == kind).flatMap (fun e => e.values key) = _
  rw [Event.scan]
  induction info.events with
  | nil => rfl
  | cons e events ih =>
    have hvalues : e.values key =
        e.attributes.filterMap fun a => if a.key = key then some a.value else none := by
      rw [Event.values, ← List.filterMap_eq_map, List.filterMap_filter]
      simp
    by_cases hkind : e.kind = kind <;> simp [hkind, hvalues, ih]

lemma indexed_of_made {l : MessageLog} (h : l.Made) : l.Indexed := by
  cases h with
  | new index log events => rfl
  | fromMessage p => rfl
  | fromMessages hread hl =>
    rw [MessageLog.listOfProto] at hread
    split at hread
    next => simp at hread
    next =>
      obtain rfl := Option.some.inj hread
      obtain ⟨p, -, rfl⟩ := List.mem_map.1 hl
      rfl
  | fromDocument hread => exact logOfJson_indexed hread
  | fromDocuments hread hl =>
    rw [MessageLog.listOfJson] at hread
    split at hread
    next => simp at hread
    next =>
      obtain ⟨logs, hlogs, hsome⟩ := map_eq_ok.1 hread
      obtain rfl := Option.some.inj hsome
      obtain ⟨⟨j, place⟩, -, hat⟩ := mem_of_mapM_eq_ok hlogs _ hl
      exact (logOfJsonAt_placed hat).2

lemma values_of_log {l : MessageLog} (h : l.Indexed) (kind key : String) :
    l.values kind key = Event.scan l.events kind key := by
  rw [MessageLog.values, h, (holds_ofEvents l.events).get_eq, valuesIn_attributes]

lemma values_of_logs {logs : List MessageLog} (h : ∀ l ∈ logs, l.Indexed) (kind key : String) :
    logs.flatMap (fun l => l.values kind key) =
      Event.scan (logs.flatMap fun l => l.events) kind key := by
  rw [Event.scan, List.flatMap_assoc]
  exact List.flatMap_congr fun l hl => values_of_log (h l hl) kind key

/-- Under a kind and key the index of events holds the values that a scan finds, in their order, and
it has an entry exactly when there is such an attribute. Every log carries the index of its events,
however it was made; so the values of a report are the same whether they are looked up in its logs or
scanned from the events of all of them. -/
theorem index_agrees_with_scan :
    (∀ events, (EventIndex.ofEvents events).Ordered ∧ ∀ kind key,
      ((EventIndex.ofEvents events).get? kind key).getD [] = Event.scan events kind key ∧
      (((EventIndex.ofEvents events).get? kind key).isSome ↔
        ∃ e ∈ events, e.kind = kind ∧ ∃ a ∈ e.attributes, a.key = key)) ∧
    (∀ l : MessageLog, l.Made → l.Indexed) ∧
    ∀ (info : TxInfo) (logs : List MessageLog), (∀ l ∈ logs, l.Indexed) → ∀ kind key,
      TxInfo.values { info with logs := some logs } kind key =
        TxInfo.values { info with logs := none, events := logs.flatMap (·.events) } kind key := by
  refine ⟨?_, fun l => indexed_of_made, ?_⟩
  · intro events
    have hholds := holds_ofEvents events
    refine ⟨hholds.ordered, fun kind key => ?_⟩
    rw [← scan_ne_nil_iff, ← valuesIn_attributes]
    exact ⟨hholds.get_eq kind key, hholds.isSome_iff kind key⟩
  · intro info logs hlogs kind key
    have hscan := values_of_events { info with logs := none, events := logs.flatMap (·.events) } rfl
    rw [hscan]
    exact values_of_logs hlogs kind key

/-- Two logs in which kinds and keys are mixed; the number of the second is in quotes and not its
place. -/
def mixedLogs : List Json :=
  let field (key value : String) : Json := .obj [("key", .str key), ("value", .str value)]
  let event (kind : String) (fields : List Json) : Json :=
    .obj [("attributes", .arr fields), ("type", .str kind)]
  [.obj [("events", .arr [event "transfer" [field "amount" "5uatom", field "memo" "",
      field "amount" "7uatom"], event "message" [field "amount" "1"]])],
    .obj [("events", .arr [event "transfer" [], event "transfer" [field "amount" "5uatom"]]),
      ("msg_index", .str "7")]]

theorem mixedLogs_values : ∃ logs, MessageLog.listOfJson mixedLogs = .ok (some logs) ∧
    (∀ l ∈ logs, l.Made) ∧ (∀ l ∈ logs, l.Indexed) ∧
    TxInfo.values { signedReport with logs := some logs } "transfer" "amount" =
      ["5uatom", "7uatom", "5uatom"] := by
  obtain ⟨-, hindexed, hvalues⟩ := index_agrees_with_scan
  obtain ⟨logs, hlogs, hevents⟩ : ∃ logs, MessageLog.listOfJson mixedLogs = .ok (some logs) ∧
      Event.scan (logs.flatMap (·.events)) "transfer" "amount" = ["5uatom", "7uatom", "5uatom"] := by
    have hread : (MessageLog.listOfJson mixedLogs).toOption.bind (fun logs => logs.map fun logs =>
        Event.scan (logs.flatMap (·.events)) "transfer" "amount") =
        some ["5uatom", "7uatom", "5uatom"] := by decide +kernel
    obtain ⟨found, hfound, hmap⟩ := Option.bind_eq_some_iff.1 hread
    obtain ⟨logs, rfl, hscan⟩ := Option.map_eq_some_iff.1 hmap
    exact ⟨logs, toOption_eq_some.1 hfound, hscan⟩
  have hmade : ∀ l ∈ logs, l.Made := fun l hl => .fromDocuments hlogs hl
  have hall : ∀ l ∈ logs, l.Indexed := fun l hl => hindexed l (hmade l hl)
  refine ⟨logs, hlogs, hmade, hall, ?_⟩
  rw [hvalues signedReport logs hall]
  exact (values_of_events _ rfl _ _).trans hevents

end CosmosClient.Proofs
