import Mathlib
import CosmosClient.Json.Decode
import CosmosClient.Proofs.Results

/-!
# The depth of documents

A document read from a text is no deeper than a reader lets it become. What a decoder finds in a
record or in a list lies deeper in the document than the record or the list.
-/

namespace CosmosClient.Json

/-- Whether a decoder finds a value in a document that lies inside another one. -/
def Inside {α : Type} (decode : Decoder α) (j : Json) (a : α) : Prop :=
  ∃ c : Json, c.depth < j.depth ∧ decode c = .ok a

end CosmosClient.Json

namespace CosmosClient.Proofs
open Json

lemma word_depth {value : Json} (hvalue : value.depth = 0) (letters cs : List Char) :
    (word letters value cs).1.depth = 0 := by
  unfold word
  induction letters generalizing cs with
  | nil => simpa [word.go] using hvalue
  | cons l letters ih =>
    cases cs with
    | nil => rfl
    | cons c cs =>
      rw [word.go]
      split
      · exact ih cs
      · rfl

lemma string_depth (cs : List Char) : (Json.string cs).1.depth = 0 := by
  unfold Json.string
  split <;> rfl

lemma numeral_depth {t : Numeral} {j : Json} (h : t.value? = some j) : j.depth = 0 := by
  unfold Numeral.value? at h
  grind [Json.depth, Option.map_eq_some_iff]

lemma number_depth (cs : List Char) : (Json.number cs).1.depth = 0 := by
  have hnumeral (t : Numeral) : (t.value?.getD (.flaw .syntactic none)).depth = 0 := by
    cases h : t.value? with
    | none => rfl
    | some j => exact numeral_depth h
  unfold Json.number
  split <;> dsimp only <;> split
  · rfl
  · exact hnumeral _
  · rfl
  · exact hnumeral _

lemma enclose_depth {depth : Nat} {found : Json} (h : found.depth ≤ depth - 1 + 1)
    (rest : Option (List Char)) : (enclose depth found rest).1.depth ≤ depth := by
  unfold enclose
  split
  · exact Nat.zero_le _
  · simp only
    omega

lemma value_depth {fuel depth : Nat}
    (hitems : ∀ cs, depthItems (items fuel (depth - 1) true cs).1 ≤ depth - 1)
    (hfields : ∀ cs, depthFields (fields fuel (depth - 1) true cs).1 ≤ depth - 1)
    (cs : List Char) : (value (fuel + 1) depth cs).1.depth ≤ depth := by
  unfold value
  split
  · exact Nat.zero_le _
  · exact (word_depth rfl _ _).le.trans (Nat.zero_le _)
  · exact (word_depth rfl _ _).le.trans (Nat.zero_le _)
  · exact (word_depth rfl _ _).le.trans (Nat.zero_le _)
  · exact (string_depth _).le.trans (Nat.zero_le _)
  · exact enclose_depth (Nat.succ_le_succ (hitems _)) _
  · exact enclose_depth (Nat.succ_le_succ (hfields _)) _
  · split
    · exact (number_depth _).le.trans (Nat.zero_le _)
    · exact Nat.zero_le _

lemma items_depth {fuel depth : Nat} (hvalue : ∀ cs, (value fuel depth cs).1.depth ≤ depth)
    (hitems : ∀ cs, depthItems (items fuel depth false cs).1 ≤ depth) (first : Bool)
    (cs : List Char) : depthItems (items (fuel + 1) depth first cs).1 ≤ depth := by
  have hflaw (fault : Fault) : depthItems [(broken fault).1] ≤ depth := Nat.zero_le _
  unfold items
  repeat' split
  all_goals grind [depthItems]

lemma fields_depth {fuel depth : Nat} (hvalue : ∀ cs, (value fuel depth cs).1.depth ≤ depth)
    (hfields : ∀ cs, depthFields (fields fuel depth false cs).1 ≤ depth) (first : Bool)
    (cs : List Char) : depthFields (fields (fuel + 1) depth first cs).1 ≤ depth := by
  have hflaw (key : String) (fault : Fault) : depthFields [(key, (broken fault).1)] ≤ depth :=
    Nat.zero_le _
  have hstring := string_depth
  unfold fields
  repeat' split
  all_goals grind [depthFields]

/-- The induction is on the fuel, of which every call leaves less to the next. -/
lemma read_depth_within (fuel : Nat) : ∀ (depth : Nat) (first : Bool) (cs : List Char),
    (value fuel depth cs).1.depth ≤ depth ∧ depthItems (items fuel depth first cs).1 ≤ depth ∧
      depthFields (fields fuel depth first cs).1 ≤ depth := by
  induction fuel with
  | zero =>
    intro depth first cs
    exact ⟨Nat.zero_le _, Nat.zero_le _, Nat.zero_le _⟩
  | succ fuel ih =>
    intro depth first cs
    have hvalue (cs : List Char) := (ih depth first cs).1
    exact ⟨value_depth (fun cs => (ih _ _ cs).2.1) (fun cs => (ih _ _ cs).2.2) cs,
      items_depth hvalue (fun cs => (ih _ _ cs).2.1) first cs,
      fields_depth hvalue (fun cs => (ih _ _ cs).2.2) first cs⟩

/-- A document read from a text is no deeper than the limit. -/
lemma read_depth (s : String) : (Json.read s).1.depth ≤ maxDepth :=
  (read_depth_within _ _ true _).1

variable {α σ : Type}

lemma depth_le_depthItems {j : Json} {items : List Json} (h : j ∈ items) :
    j.depth ≤ depthItems items := by
  induction items with
  | nil => simp at h
  | cons i items ih =>
    rw [depthItems]
    rcases List.mem_cons.1 h with rfl | h
    · exact le_max_left _ _
    · exact le_max_of_le_right (ih h)

lemma depth_le_depthFields {f : String × Json} {fields : List (String × Json)} (h : f ∈ fields) :
    f.2.depth ≤ depthFields fields := by
  induction fields with
  | nil => simp at h
  | cons g fields ih =>
    rw [depthFields]
    rcases List.mem_cons.1 h with rfl | h
    · exact le_max_left _ _
    · exact le_max_of_le_right (ih h)

lemma depthItems_le {items : List Json} {n : Nat} (h : ∀ j ∈ items, j.depth ≤ n) :
    depthItems items ≤ n := by
  induction items with
  | nil => exact Nat.zero_le _
  | cons j items ih =>
    obtain ⟨hj, hitems⟩ := List.forall_mem_cons.1 h
    exact max_le hj (ih hitems)

lemma depthFields_le {fields : List (String × Json)} {n : Nat} (h : ∀ f ∈ fields, f.2.depth ≤ n) :
    depthFields fields ≤ n := by
  induction fields with
  | nil => exact Nat.zero_le _
  | cons f fields ih =>
    obtain ⟨hf, hfields⟩ := List.forall_mem_cons.1 h
    exact max_le hf (ih hfields)

lemma require_eq_ok {o : Option α} {a : α} : require o = .ok a ↔ o = some a := by
  cases o <;> simp [require]

lemma inside_of_list {decode : Decoder α} {j : Json} {l : List α} (h : Json.list decode j = .ok l) :
    ∀ a ∈ l, Inside decode j a := by
  intro a ha
  unfold Json.list at h
  split at h
  next items =>
    obtain ⟨c, hc, hdecode⟩ := mem_of_mapM_eq_ok h a ha
    exact ⟨c, Nat.lt_succ_of_le (depth_le_depthItems hc), hdecode⟩
  next => cases j <;> simp [mismatch] at h

lemma keepFields_preserves {slots : List (Slot σ)} {P : σ → Prop} {fields : List (String × Json)}
    (hkeep : ∀ slot ∈ slots, ∀ f ∈ fields, ∀ s s', slot.keep f.2 s = .ok s' → P s → P s')
    {seen : List String} {s s' : σ} (h : keepFields slots seen fields s = .ok s') (hs : P s) :
    P s' := by
  induction fields generalizing seen s with
  | nil =>
    obtain rfl := Except.ok.inj h
    exact hs
  | cons f fields ih =>
    have hrest : ∀ slot ∈ slots, ∀ g ∈ fields, ∀ s s', slot.keep g.2 s = .ok s' → P s → P s' :=
      fun slot hslot g hg => hkeep slot hslot g (by simp [hg])
    rw [keepFields] at h
    split at h
    next =>
      obtain ⟨_, -, h⟩ := bind_eq_ok.1 h
      exact ih hrest h hs
    next slot hslot =>
      split at h
      · exact absurd h (by simp)
      · obtain ⟨t, ht, h⟩ := bind_eq_ok.1 h
        have hmem := List.mem_of_find?_eq_some hslot
        exact ih hrest h (hkeep slot hmem f (by simp) s t ht hs)

lemma keepItems_preserves {slots : List (Slot σ)} {P : σ → Prop} {items : List Json}
    (hkeep : ∀ slot ∈ slots, ∀ c ∈ items, ∀ s s', slot.keep c s = .ok s' → P s → P s')
    {s s' : σ} (h : keepItems slots items s = .ok s') (hs : P s) : P s' := by
  induction items generalizing slots s with
  | nil =>
    cases slots with
    | nil =>
      obtain rfl := Except.ok.inj h
      exact hs
    | cons slot slots =>
      rw [keepItems] at h
      split at h
      · obtain rfl := Except.ok.inj h
        exact hs
      · exact absurd h (by simp)
  | cons c items ih =>
    cases slots with
    | nil => cases c <;> simp [keepItems] at h
    | cons slot slots =>
      rw [keepItems] at h
      obtain ⟨t, ht, h⟩ := bind_eq_ok.1 h
      refine ih (fun slot' hslot d hd => hkeep slot' (by simp [hslot]) d (by simp [hd])) h ?_
      exact hkeep slot (by simp) c (by simp) s t ht hs

/-- What the slots of a record keep to with values from inside the record holds of what is read. -/
lemma record_preserves {slots : List (Slot σ)} {P : σ → Prop} {start s : σ} {j : Json}
    (hkeep : ∀ slot ∈ slots, ∀ c s s', c.depth < j.depth → slot.keep c s = .ok s' → P s → P s')
    (hstart : P start) (h : record slots start j = .ok s) : P s := by
  unfold record at h
  split at h
  next fields =>
    refine keepFields_preserves (fun slot hslot f hf s s' => ?_) h hstart
    exact hkeep slot hslot f.2 s s' (Nat.lt_succ_of_le (depth_le_depthFields hf))
  next items =>
    refine keepItems_preserves (fun slot hslot c hc s s' => ?_) h hstart
    exact hkeep slot hslot c s s' (Nat.lt_succ_of_le (depth_le_depthItems hc))
  next => cases j <;> simp [mismatch] at h

/-- A part of the state that only one decoder fills is found inside the record. -/
lemma record_inside (get : σ → Option α) (decode : Decoder α) {slots : List (Slot σ)} {start s : σ}
    {j : Json} (hkeep : ∀ slot ∈ slots, ∀ c s s', slot.keep c s = .ok s' →
      get s' = get s ∨ ∃ a, decode c = .ok a ∧ get s' = some a)
    (hstart : get start = none) (h : record slots start j = .ok s) {a : α} (ha : get s = some a) :
    Inside decode j a := by
  have hfound : ∀ b, get s = some b → Inside decode j b := by
    refine record_preserves (P := fun s => ∀ b, get s = some b → Inside decode j b) ?_ ?_ h
    · intro slot hslot c s s' hc hs hfound b hb
      rcases hkeep slot hslot c s s' hs with hsame | ⟨b', hb', hput⟩
      · exact hfound b (hsame ▸ hb)
      · obtain rfl := Option.some.inj (hput.symm.trans hb)
        exact ⟨c, hc, hb'⟩
    · simp [hstart]
  exact hfound a ha

lemma variant_eq_ok {decode : String → Option (Option Json → Except Fault α)} {j : Json} {a : α}
    (h : variant decode j = .ok a) :
    ∃ name read, decode name = some read ∧
      ((j = .str name ∧ read none = .ok a) ∨ ∃ c, j = .obj [(name, c)] ∧ read (some c) = .ok a) := by
  unfold variant at h
  split at h
  next name =>
    split at h
    · exact absurd h (by simp)
    next read hread => exact ⟨name, read, hread, .inl ⟨rfl, h⟩⟩
  · exact absurd h (by simp)
  · exact absurd h (by simp)
  next name c rest _ =>
    split at h
    · exact absurd h (by simp)
    next read hread =>
      obtain ⟨b, hb, h⟩ := bind_eq_ok.1 h
      split at h
      next =>
        obtain rfl := Except.ok.inj h
        exact ⟨name, read, hread, .inr ⟨c, rfl, hb⟩⟩
      · exact absurd h (by simp)
      · exact absurd h (by simp)
  · exact absurd h (by simp)
  · exact absurd h (by simp)

end CosmosClient.Proofs
