import Mathlib
import CosmosClient.Proofs.ReportEncoding
import CosmosClient.Proofs.TxJson
import CosmosClient.Proofs.TxText

/-!
# Reports in JSON

A report on a transaction is read back from its JSON value. What is not there is left out of the value,
the index of a log is made again, and the place of a log counts instead of its own number.
-/

namespace CosmosClient

/-- Every log has its place as its number. -/
def TxInfo.Numbered (info : TxInfo) : Prop :=
  ∀ logs ∈ info.logs, ∀ (i : Nat) (l : MessageLog), logs[i]? = some l → l.index = UInt32.ofNat i

/-- The logs are indexed, and their numbers are their places from a first one on. -/
def MessageLog.Placed (first : Nat) (logs : List MessageLog) : Prop :=
  ∀ (i : Nat) (l : MessageLog), logs[i]? = some l →
    l.index = UInt32.ofNat (first + i) ∧ l.byKind = EventIndex.ofEvents l.events

/-- What no field that is read takes away from a report. -/
structure TxInfo.Draft.Normal (d : TxInfo.Draft) : Prop where
  code : d.code ≠ some 0
  codespace : d.codespace ≠ some ""
  logs : d.logs ≠ some []
  placed : ∀ logs ∈ d.logs, MessageLog.Placed 0 logs

end CosmosClient

namespace CosmosClient.Proofs
open Json

lemma eventOfJson_toJson (e : Event) : Event.ofJson e.toJson.normal = .ok e := by
  have hnormal : e.toJson.normal = .obj [("attributes", .arr (e.attributes.map fun a =>
      .obj [("key", .str a.key), ("value", .str a.value)])), ("type", .str e.kind)] := by
    have hitems := normal_map (fun a : Attribute =>
      .obj [("key", .str a.key), ("value", .str a.value)]) e.attributes
    simp only [Event.toJson, normal, normalFields, sortFields, List.foldl, insertField,
      String.reduceLT, String.reduceEq, if_true, if_false] at hitems ⊢
    rw [hitems]
  have hattributes : Json.list Event.attributeOfJson (.arr (e.attributes.map fun a =>
      .obj [("key", .str a.key), ("value", .str a.value)])) = .ok e.attributes := by
    apply list_map
    intro a _
    simp [Event.attributeOfJson, record, keepFields, slot, text, nullable, require]
  rw [hnormal]
  simp [Event.ofJson, record, keepFields, slot, text, require, hattributes]

lemma eventsOfJson_toJson (events : List Event) :
    Json.list Event.ofJson (.arr (events.map fun e => e.toJson.normal)) = .ok events :=
  list_map fun e _ => eventOfJson_toJson e

lemma logOfJson_toJson (l : MessageLog) :
    MessageLog.ofJson l.toJson.normal = .ok (.ofEvents l.index l.log l.events) := by
  have hnormal : l.toJson.normal = .obj [("events", .arr (l.events.map fun e => e.toJson.normal)),
      ("log", .str l.log), ("msg_index", .int l.index.toNat)] := by
    rw [← normal_map]
    simp only [MessageLog.toJson, normal, normalFields, sortFields, List.foldl, insertField,
      String.reduceLT, String.reduceEq, if_true, if_false]
  rw [hnormal]
  simp [MessageLog.ofJson, record, keepFields, slot, text, nullable, eventsOfJson_toJson,
    looseUInt32_toNat]

lemma logOfJsonAt_toJson {l : MessageLog} {place : Nat} (hplace : l.index = UInt32.ofNat place)
    (hindex : l.byKind = EventIndex.ofEvents l.events) :
    MessageLog.ofJsonAt place l.toJson.normal = .ok l := by
  rw [MessageLog.ofJsonAt, decodeValue, normal_normal, logOfJson_toJson, settle, mapError_ok]
  cases l
  simp_all [MessageLog.ofEvents]

lemma logOfJson_indexed {j : Json} {l : MessageLog} (h : MessageLog.ofJson j = .ok l) :
    l.byKind = EventIndex.ofEvents l.events := by
  obtain ⟨⟨index, log, events⟩, -, h⟩ := bind_eq_ok.1 h
  obtain rfl := pure_eq_ok.1 h
  rfl

lemma logOfJsonAt_placed {place : Nat} {j : Json} {l : MessageLog}
    (h : MessageLog.ofJsonAt place j = .ok l) :
    l.index = UInt32.ofNat place ∧ l.byKind = EventIndex.ofEvents l.events := by
  unfold MessageLog.ofJsonAt at h
  split at h
  next => simp at h
  next found hfound =>
    have hindexed : found.byKind = EventIndex.ofEvents found.events :=
      logOfJson_indexed (mapError_eq_ok.1 hfound)
    obtain rfl := Except.ok.inj h
    exact ⟨rfl, hindexed⟩

lemma firstFlaw_log (l : MessageLog) : firstFlaw l.toJson = none := by
  have hevent (e : Event) : firstFlaw e.toJson = none := by
    have hattributes : firstFlawItems (e.attributes.map fun a =>
        .obj [("key", .str a.key), ("value", .str a.value)]) = none :=
      firstFlawItems_map fun a _ => rfl
    simp [Event.toJson, firstFlaw, firstFlawFields, hattributes]
  have hevents : firstFlawItems (l.events.map Event.toJson) = none :=
    firstFlawItems_map fun e _ => hevent e
  simp [MessageLog.toJson, firstFlaw, firstFlawFields, hevents]

lemma logsAt_toJson {first : Nat} {logs : List MessageLog} (h : MessageLog.Placed first logs) :
    ((logs.map fun l => l.toJson.normal).zipIdx first).mapM
      (fun (j, place) => MessageLog.ofJsonAt place j) = .ok logs := by
  induction logs generalizing first with
  | nil => rfl
  | cons l logs ih =>
    obtain ⟨hplace, hindex⟩ := h 0 l rfl
    have hrest := @ih (first + 1) fun i l hl => by
      rw [Nat.add_assoc, Nat.add_comm 1]
      exact h (i + 1) l hl
    have hfirst : MessageLog.ofJsonAt first l.toJson.normal = .ok l :=
      logOfJsonAt_toJson hplace hindex
    rw [List.map_cons, List.zipIdx_cons, List.mapM_cons, hrest]
    simp only [hfirst, ok_bind, pure_ok]

lemma logsOfJson_toJson {logs : List MessageLog} (hne : logs ≠ [])
    (h : MessageLog.Placed 0 logs) :
    TxInfo.logsOfJson (.arr (logs.map fun l => l.toJson.normal)) = .ok (some logs) := by
  have hany : Json.list Json.any (.arr (logs.map fun l => l.toJson.normal)) =
      .ok (logs.map fun l => l.toJson.normal) := by
    have hsame := @list_map Json Json.any id (logs.map fun l => l.toJson.normal) fun j hj => by
      obtain ⟨l, -, rfl⟩ := List.mem_map.1 hj
      exact any_of_isValue (isValue_normal (firstFlaw_log l))
    rwa [List.map_id] at hsame
  simp only [TxInfo.logsOfJson, nullable, hany, ok_bind, MessageLog.listOfJson]
  rw [if_neg (by simpa using hne), logsAt_toJson h]
  rfl

/-- An empty list means no logs, and the place of a log takes the place of its number. -/
lemma logsOfJson_placed {j : Json} {logs : Option (List MessageLog)}
    (h : TxInfo.logsOfJson j = .ok logs) :
    logs ≠ some [] ∧ ∀ ls ∈ logs, MessageLog.Placed 0 ls := by
  obtain ⟨js, -, h⟩ := bind_eq_ok.1 h
  have hlist := mapError_eq_ok.1 h
  unfold MessageLog.listOfJson at hlist
  split at hlist
  next =>
    obtain rfl := Except.ok.inj hlist
    simp
  next hne =>
    obtain ⟨ls, hls, rfl⟩ := map_eq_ok.1 hlist
    constructor
    · intro hnil
      obtain rfl := Option.some.inj hnil
      obtain ⟨j, js, rfl⟩ := List.exists_cons_of_ne_nil (by simpa using hne)
      simp [List.zipIdx_cons, List.mapM_cons, bind_eq_ok] at hls
    · intro ls' hsome i l hl
      obtain rfl := Option.some.inj hsome
      obtain ⟨⟨c, place⟩, hitem, hread⟩ := getElem?_of_mapM_eq_ok hls hl
      rw [List.getElem?_zipIdx] at hitem
      obtain ⟨d, -, hd⟩ := Option.map_eq_some_iff.1 hitem
      obtain ⟨rfl, rfl⟩ := Prod.mk.inj hd
      exact logOfJsonAt_placed hread

/-- The fields of a report in the order of their keys. -/
def reportFields (info : TxInfo) (tx : Json) : List (String × Json) :=
  (info.code.toList.map fun code => ("code", .int code.toNat)) ++
  ((info.codespace.toList.map fun codespace => ("codespace", .str codespace)) ++
  (((if info.events.isEmpty then none else some info.events).toList.map fun events =>
    ("events", .arr (events.map fun e => e.toJson.normal))) ++
  (("gas_used", .str (Number.writeInt info.gasUsed.toInt)) ::
  ("gas_wanted", .str (Number.writeInt info.gasWanted.toInt)) ::
  ("height", .str (Number.writeInt info.height.toInt)) ::
  ((info.logs.toList.map fun logs => ("logs", .arr (logs.map fun l => l.toJson.normal))) ++
  [("raw_log", .str info.rawLog), ("timestamp", .str info.timestamp), ("tx", tx.normal),
    ("txhash", .str info.txhash)]))))

lemma optional_keys {β : Type} (key : String) (write : β → Json) (o : Option β) :
    ((o.toList.map fun b => (key, write b)).map (·.1)).Sublist [key] := by
  cases o <;> simp

lemma reportFields_increasing (info : TxInfo) (tx : Json) : Increasing (reportFields info tx) := by
  have hkeys : ((reportFields info tx).map (·.1)).Sublist (["code"] ++ (["codespace"] ++ (["events"] ++
      ("gas_used" :: "gas_wanted" :: "height" :: (["logs"] ++
        ["raw_log", "timestamp", "tx", "txhash"]))))) := by
    unfold reportFields
    simp only [List.map_append, List.map_cons, List.map_nil]
    exact (optional_keys _ _ _).append ((optional_keys _ _ _).append ((optional_keys _ _ _).append
      ((((optional_keys _ _ _).append (List.Sublist.refl _)).cons_cons _).cons_cons _ |>.cons_cons _)))
  have hsorted : ((reportFields info tx).map (·.1)).Pairwise (· < ·) :=
    List.Pairwise.sublist hkeys (by decide)
  exact List.pairwise_map.1 hsorted

lemma infoToJson_normal {info : TxInfo} {tx j : Json} (htx : info.tx.toJson = .ok tx)
    (hj : info.toJson = .ok j) : j.normal = .obj (reportFields info tx) := by
  rw [TxInfo.toJson, htx, map_ok] at hj
  obtain rfl := Except.ok.inj hj
  rw [normal, normalFields_eq]
  refine congrArg Json.obj (sortFields_of_perm ?_ (reportFields_increasing info tx))
  have hlogs : (info.logs.toList.map fun logs => ("logs", Json.arr (logs.map MessageLog.toJson))).map
      (fun f => (f.1, f.2.normal)) =
      info.logs.toList.map fun logs => ("logs", .arr (logs.map fun l => l.toJson.normal)) := by
    simp only [List.map_map, Function.comp_def, normal_map]
  have hevents : (if info.events.isEmpty then [] else
      [("events", Json.arr (info.events.map Event.toJson))]).map (fun f => (f.1, f.2.normal)) =
      (if info.events.isEmpty then none else some info.events).toList.map fun events =>
        ("events", .arr (events.map fun e => e.toJson.normal)) := by
    split <;> simp [normal_map]
  have hcode : (info.code.toList.map fun code => ("code", Json.int code.toNat)).map
      (fun f => (f.1, f.2.normal)) = info.code.toList.map fun code => ("code", .int code.toNat) := by
    simp only [List.map_map, Function.comp_def, normal]
  have hcodespace : (info.codespace.toList.map fun codespace => ("codespace", Json.str codespace)).map
      (fun f => (f.1, f.2.normal)) =
      info.codespace.toList.map fun codespace => ("codespace", .str codespace) := by
    simp only [List.map_map, Function.comp_def, normal]
  simp only [List.map_append, hlogs, hevents, hcode, hcodespace, List.map_cons, List.map_nil, normal]
  unfold reportFields
  rw [← Multiset.coe_eq_coe]
  simp only [← Multiset.coe_add, ← Multiset.cons_coe, ← Multiset.singleton_add, Multiset.coe_nil]
  abel

/-- The fields of a report are read one by one in the order of their keys. -/
lemma infoOfJson_fields {info : TxInfo} {tx : Json} (hinfo : info.Normal) (hplaces : info.Numbered)
    (htx : Tx.ofJson tx.normal = .ok info.tx) :
    TxInfo.ofJson (.obj (reportFields info tx)) = .ok info := by
  obtain ⟨height, txhash, rawLog, logs, gasWanted, gasUsed, body, timestamp, events, code,
    codespace⟩ := info
  have hplaced (ls : List MessageLog) (hls : ls ∈ logs) : MessageLog.Placed 0 ls := by
    intro i l hl
    rw [Nat.zero_add]
    exact ⟨hplaces ls hls i l hl, hinfo.indexed ls hls l (List.mem_of_getElem? hl)⟩
  unfold TxInfo.ofJson
  refine bind_eq_ok.2 ⟨⟨some height, some txhash, rawLog, logs, some gasWanted, some gasUsed,
    some body, some timestamp, events, code, codespace⟩, ?_, rfl⟩
  show keepFields _ [] (reportFields _ tx) _ = _
  unfold reportFields
  refine keepFields_option (u := { code := code }) code rfl (by simp) ?_ ?_ ?_
  · rintro rfl
    rfl
  · rintro c rfl
    refine ⟨c, (nullable_of_ne_null (by simp)).trans (uint32_toNat c), ?_⟩
    rw [if_neg fun hzero => hinfo.code (congrArg some hzero)]
  refine keepFields_option (u := { code := code, codespace := codespace }) codespace rfl (by simp)
    ?_ ?_ ?_
  · rintro rfl
    rfl
  · rintro c rfl
    refine ⟨c, (nullable_of_ne_null (by simp)).trans (text_str c), ?_⟩
    rw [if_neg fun hempty => hinfo.codespace (congrArg some hempty)]
  refine keepFields_option (u := { code := code, codespace := codespace, events := events }) _ rfl
    (by simp) ?_ ?_ ?_
  · intro hnone
    obtain rfl : events = [] := by simpa using hnone
    rfl
  · intro es hes
    obtain rfl : events = es := by
      split at hes
      · simp at hes
      · exact Option.some.inj hes
    exact ⟨events, eventsOfJson_toJson events, rfl⟩
  refine keepFields_slot rfl (by simp) (looseInt64_write gasUsed) ?_
  refine keepFields_slot rfl (by simp) (looseInt64_write gasWanted) ?_
  refine keepFields_slot rfl (by simp) (looseInt64_write height) ?_
  refine keepFields_option
    (u := ⟨some height, none, "", logs, some gasWanted, some gasUsed, none, none, events, code,
      codespace⟩) logs rfl (by simp) ?_ ?_ ?_
  · rintro rfl
    rfl
  · rintro ls rfl
    exact ⟨some ls, logsOfJson_toJson (fun hnil => hinfo.logs (congrArg some hnil))
      (hplaced ls rfl), rfl⟩
  refine keepFields_slot rfl (by simp) (text_str _) ?_
  refine keepFields_slot rfl (by simp) (text_str _) ?_
  refine keepFields_slot rfl (by simp) htx ?_
  exact keepFields_slot rfl (by simp) (text_str _) rfl

lemma infoOfJson_placed {j : Json} {info : TxInfo} (h : TxInfo.ofJson j = .ok info) :
    info.Normal ∧ info.Numbered := by
  obtain ⟨d, hrecord, h⟩ := bind_eq_ok.1 h
  have hd : d.Normal := by
    refine record_preserves ?_ ⟨by simp, by simp, by simp, by simp⟩ hrecord
    -- only the logs, the code and the code space are at stake
    simp only [List.forall_mem_cons]
    refine ⟨?height, ?txhash, ?rawLog, ?logs, ?gasWanted, ?gasUsed, ?tx, ?timestamp, ?events, ?code,
      ?codespace, by simp⟩
    case logs =>
      intro c s s' _ hs ⟨hcode, hcodespace, _, _⟩
      obtain ⟨x, hx, rfl⟩ := map_eq_ok.1 hs
      obtain ⟨hlogs, hplaced⟩ := logsOfJson_placed hx
      exact ⟨hcode, hcodespace, hlogs, hplaced⟩
    case code =>
      intro c s s' _ hs ⟨_, hcodespace, hlogs, hplaced⟩
      obtain ⟨x, -, rfl⟩ := map_eq_ok.1 hs
      refine ⟨?_, hcodespace, hlogs, hplaced⟩
      show (if x = 0 then none else some x) ≠ some 0
      split <;> simp_all
    case codespace =>
      intro c s s' _ hs ⟨hcode, _, hlogs, hplaced⟩
      obtain ⟨x, -, rfl⟩ := map_eq_ok.1 hs
      refine ⟨hcode, ?_, hlogs, hplaced⟩
      show (if x = "" then none else some x) ≠ some ""
      split <;> simp_all
    case height | txhash | rawLog | gasWanted | gasUsed | tx | timestamp | events =>
      intro c s s' _ hs ⟨hcode, hcodespace, hlogs, hplaced⟩
      obtain ⟨x, -, rfl⟩ := map_eq_ok.1 hs
      exact ⟨hcode, hcodespace, hlogs, hplaced⟩
  simp only [bind_eq_ok, pure_eq_ok] at h
  obtain ⟨height, -, txhash, -, gasWanted, -, gasUsed, -, tx, -, timestamp, -, rfl⟩ := h
  constructor
  · refine ⟨hd.code, hd.codespace, hd.logs, fun ls hls l hl => ?_⟩
    obtain ⟨i, hi⟩ := List.mem_iff_getElem?.1 hl
    exact (hd.placed ls hls i l hi).2
  · intro ls hls i l hl
    have hplace := (hd.placed ls hls i l hl).1
    rwa [Nat.zero_add] at hplace

lemma infoOfJson_toJson {info : TxInfo} {tx : Json} (hinfo : info.Normal) (hplaces : info.Numbered)
    (htx : info.tx.toJson = .ok tx) (hback : decodeValue Tx.ofJson tx = .ok info.tx) :
    ∃ j, info.toJson = .ok j ∧ decodeValue TxInfo.ofJson j = .ok info := by
  obtain ⟨j, hj⟩ : ∃ j, info.toJson = .ok j := ⟨_, by rw [TxInfo.toJson, htx, map_ok]⟩
  have hread := infoOfJson_fields hinfo hplaces (mapError_eq_ok.1 hback)
  exact ⟨j, hj, by rw [decodeValue, infoToJson_normal htx hj, hread, settle, mapError_ok]⟩

/-- A report that was read is normal, and its logs have their places as numbers when it was read from
JSON. A normal report is read back from its message, and from its JSON value if its logs are numbered
so, whenever its transaction is. It has no message only for a transaction with a message of an unknown
type in JSON. The bound on the length of an event holds for every event that fits into the memory of a
machine with 64-bit addresses. -/
theorem report_round_trips (info : TxInfo) :
    (∀ p, TxInfo.ofProto p = .ok info → info.Normal) ∧
    (∀ s, decodeText TxInfo.ofJson s = .ok info → info.Normal ∧ info.Numbered) ∧
    (∀ j, decodeValue TxInfo.ofJson j = .ok info → info.Normal ∧ info.Numbered) ∧
    ((∀ e ∈ info.events, Fits e.toAbci.bytes) →
      ((∃ e, info.toProto = .error e) ↔ ∃ value, Message.json value ∈ info.tx.body.messages) ∧
      (info.Normal → (∃ b, info.tx.toBytes = .ok b ∧ Tx.ofBytes b = .ok info.tx) →
        ∃ p, info.toProto = .ok p ∧ TxInfo.ofProto p = .ok info)) ∧
    (info.Normal → info.Numbered →
      (∃ j, info.tx.toJson = .ok j ∧ decodeValue Tx.ofJson j = .ok info.tx) →
      ∃ j, info.toJson = .ok j ∧ decodeValue TxInfo.ofJson j = .ok info) := by
  refine ⟨fun p => normal_of_ofProto, fun s hs => infoOfJson_placed (decodeText_eq_ok hs),
    fun j hj => infoOfJson_placed (mapError_eq_ok.1 hj), fun hevents => ?_, ?_⟩
  · refine ⟨infoToProto_error_iff hevents, ?_⟩
    rintro hinfo ⟨b, hb, hback⟩
    exact infoOfProto_toProto hinfo hevents hb hback
  · rintro hinfo hplaces ⟨tx, htx, hback⟩
    exact infoOfJson_toJson hinfo hplaces htx hback

/-- A report with a height below zero, a log that an event is in, an event of the whole transaction
with letters that take more than a byte, and neither a code nor a code space. -/
def signedReport : TxInfo :=
  ⟨-7, "AB", "", some [.ofEvents 0 "" [⟨"transfer", [⟨"amount", "1uatom"⟩]⟩]], 9, 8,
    ⟨⟨[.send "a" "b" Coins.empty], "", 0⟩,
      ⟨[⟨none, .single .direct, 4⟩], Fee.ofGas 200 Coins.empty⟩, [[5]]⟩,
    "2023-03-01T12:00:00Z", [⟨"transfer", [⟨"clé", "日本"⟩]⟩], none, none⟩

lemma signedReport_normal : signedReport.Normal ∧ signedReport.Numbered := by
  have hlogs (logs : List MessageLog) (h : logs ∈ signedReport.logs) :
      logs = [.ofEvents 0 "" [⟨"transfer", [⟨"amount", "1uatom"⟩]⟩]] :=
    (Option.some.inj h).symm
  constructor
  · refine ⟨by decide, by decide, by decide, ?_⟩
    intro logs h l hl
    rw [hlogs logs h, List.mem_singleton] at hl
    rw [hl]
    rfl
  · intro logs h i l hl
    rw [hlogs logs h, List.getElem?_singleton] at hl
    split at hl
    next hi =>
      rw [← Option.some.inj hl, hi]
      rfl
    next => simp at hl

lemma signedReport_tx :
    (∃ b, signedReport.tx.toBytes = .ok b ∧ Tx.ofBytes b = .ok signedReport.tx) ∧
    ∃ j, signedReport.tx.toJson = .ok j ∧ decodeValue Tx.ofJson j = .ok signedReport.tx := by
  constructor
  · have hcanonical : ∀ m ∈ signedReport.tx.body.messages, m.Canonical := by
      decide
    obtain ⟨p, hp, hback⟩ := ofProto_toProto hcanonical
    refine ⟨p.bytes, by rw [Tx.toBytes, hp]; rfl, ofBytes_bytes hback ?_ ?_⟩
    · cases hp
      decide
    · cases hp
      unfold Fits
      decide +kernel
  · have hlegible : ∀ m ∈ signedReport.tx.body.messages, m.Legible := by
      simp [signedReport, Message.Legible]
    obtain ⟨j, hj, hback⟩ := txOfJson_toJson hlegible
    exact ⟨j, hj, by rw [decodeValue, hback, settle, mapError_ok]⟩

theorem signedReport_round_trips :
    signedReport.Normal ∧ signedReport.Numbered ∧
    (∀ e ∈ signedReport.events, Fits e.toAbci.bytes) ∧
    (∃ p, signedReport.toProto = .ok p ∧ TxInfo.ofProto p = .ok signedReport) ∧
    ∃ j, signedReport.toJson = .ok j ∧ decodeValue TxInfo.ofJson j = .ok signedReport := by
  obtain ⟨hnormal, hnumbered⟩ := signedReport_normal
  obtain ⟨hmessage, hvalue⟩ := signedReport_tx
  have hevents : ∀ e ∈ signedReport.events, Fits e.toAbci.bytes := by
    intro e he
    rw [List.mem_singleton.1 he]
    unfold Fits
    decide +kernel
  obtain ⟨-, -, -, hproto, hjson⟩ := report_round_trips signedReport
  exact ⟨hnormal, hnumbered, hevents, (hproto hevents).2 hnormal hmessage,
    hjson hnormal hnumbered hvalue⟩

end CosmosClient.Proofs
