import Mathlib
import CosmosClient.Proofs.JsonReading

/-!
# Fields of records that were read

A part of the state of a record that only one slot changes is known from the value of that field in
the document, wherever the field stands: known fields may not repeat, and the items of an array belong
to the slots in order.
-/

namespace CosmosClient

/-- The value of a field of a record: by its name in an object, by its place in an array. -/
def Json.part? (name : String) (place : Nat) : Json → Option Json
  | .obj fields => (fields.find? fun f => f.1 == name).map (·.2)
  | .arr items => items[place]?
  | _ => none

end CosmosClient

namespace CosmosClient.Proofs
open Json

variable {σ α β γ : Type} {slots : List (Slot σ)} {seen : List String} {name : String}
  {omittable : Bool} {decode : Decoder α} {put : α → σ → σ} {view : σ → γ} {out : α → γ} {s t : σ}

/-- A part of the state that only the slot of one name changes. -/
structure Fills (slots : List (Slot σ)) (name : String) (decode : Decoder α) (view : σ → γ)
    (out : α → γ) : Prop where
  own : ∀ slot ∈ slots, slot.name = name → ∀ j s t, slot.keep j s = .ok t →
    ∃ a, decode j = .ok a ∧ view t = out a
  other : ∀ slot ∈ slots, slot.name ≠ name → ∀ j s t, slot.keep j s = .ok t → view t = view s

lemma fills_nil : Fills [] name decode view out := ⟨by simp, by simp⟩

lemma fills_own (hput : ∀ a s, view (put a s) = out a) (h : Fills slots name decode view out) :
    Fills (slot name omittable decode put :: slots) name decode view out := by
  constructor
  · intro s hs hname j t u hkeep
    rcases List.mem_cons.1 hs with rfl | hs
    · obtain ⟨a, ha, rfl⟩ := map_eq_ok.1 hkeep
      exact ⟨a, ha, hput a t⟩
    · exact h.own s hs hname j t u hkeep
  · intro s hs hname j t u hkeep
    rcases List.mem_cons.1 hs with rfl | hs
    · exact absurd rfl hname
    · exact h.other s hs hname j t u hkeep

lemma fills_other {name' : String} {decode' : Decoder β} {put : β → σ → σ} (hname : name' ≠ name)
    (hput : ∀ b s, view (put b s) = view s) (h : Fills slots name decode view out) :
    Fills (slot name' omittable decode' put :: slots) name decode view out := by
  constructor
  · intro s hs hown j t u hkeep
    rcases List.mem_cons.1 hs with rfl | hs
    · exact absurd hown hname
    · exact h.own s hs hown j t u hkeep
  · intro s hs hother j t u hkeep
    rcases List.mem_cons.1 hs with rfl | hs
    · obtain ⟨b, -, rfl⟩ := map_eq_ok.1 hkeep
      exact hput b t
    · exact h.other s hs hother j t u hkeep

/-- What the part of the state is after a record with or without the field. -/
def Filled (decode : Decoder α) (view : σ → γ) (out : α → γ) (field : Option Json) (s t : σ) : Prop :=
  match field with
  | none => view t = view s
  | some j => ∃ a, decode j = .ok a ∧ view t = out a

lemma view_of_seen {fields : List (String × Json)} (h : Fills slots name decode view out)
    (hseen : name ∈ seen) (hread : keepFields slots seen fields s = .ok t) : view t = view s := by
  induction fields generalizing seen s with
  | nil =>
    obtain rfl := Except.ok.inj hread
    rfl
  | cons f fields ih =>
    rw [keepFields] at hread
    split at hread
    next =>
      obtain ⟨_, -, hread⟩ := bind_eq_ok.1 hread
      exact ih hseen hread
    next slot hslot =>
      split at hread
      next => exact absurd hread (by simp)
      next hnew =>
        obtain ⟨u, hu, hread⟩ := bind_eq_ok.1 hread
        have hname : slot.name = f.1 := by simpa using List.find?_some hslot
        have hother : slot.name ≠ name := by
          rintro rfl
          exact hnew (by simpa [← hname] using hseen)
        rw [ih (List.mem_cons_of_mem _ hseen) hread,
          h.other slot (List.mem_of_find?_eq_some hslot) hother _ _ _ hu]

lemma filled_of_keepFields {fields : List (String × Json)} (place : Nat)
    (h : Fills slots name decode view out)
    (hslots : ∃ slot ∈ slots, slot.name = name) (hread : keepFields slots seen fields s = .ok t) :
    Filled decode view out (Json.part? name place (.obj fields)) s t := by
  induction fields generalizing seen s with
  | nil =>
    obtain rfl := Except.ok.inj hread
    rfl
  | cons f fields ih =>
    rw [keepFields] at hread
    by_cases hf : f.1 = name
    · -- the field itself: later ones of its name would have been refused
      have hfield : Json.part? name place (.obj (f :: fields)) = some f.2 := by simp [Json.part?, hf]
      rw [hfield]
      split at hread
      next hnone =>
        obtain ⟨slot, hslot, hname⟩ := hslots
        exact absurd (List.find?_eq_none.1 hnone slot hslot) (by simp [hname, hf])
      next slot hslot =>
        split at hread
        next => exact absurd hread (by simp)
        next =>
          obtain ⟨u, hu, hread⟩ := bind_eq_ok.1 hread
          have hname : slot.name = f.1 := by simpa using List.find?_some hslot
          obtain ⟨a, ha, hview⟩ :=
            h.own slot (List.mem_of_find?_eq_some hslot) (hname.trans hf) _ _ _ hu
          refine ⟨a, ha, ?_⟩
          rw [← hview]
          exact view_of_seen h (by simp [hf]) hread
    · have hfield : Json.part? name place (.obj (f :: fields)) =
          Json.part? name place (.obj fields) := by
        simp [Json.part?, hf]
      rw [hfield]
      split at hread
      next =>
        obtain ⟨_, -, hread⟩ := bind_eq_ok.1 hread
        exact ih hread
      next slot hslot =>
        split at hread
        next => exact absurd hread (by simp)
        next =>
          obtain ⟨u, hu, hread⟩ := bind_eq_ok.1 hread
          have hname : slot.name = f.1 := by simpa using List.find?_some hslot
          have hsame : view u = view s :=
            h.other slot (List.mem_of_find?_eq_some hslot) (hname ▸ hf) _ _ _ hu
          have hrest := ih hread
          unfold Filled at hrest ⊢
          rwa [hsame] at hrest

lemma filled_of_keepItems {items : List Json} {place : Nat} (h : Fills slots name decode view out)
    (hplace : (slots.map (·.name))[place]? = some name) (hnodup : (slots.map (·.name)).Nodup)
    (hread : keepItems slots items s = .ok t) : Filled decode view out items[place]? s t := by
  induction slots generalizing place items s with
  | nil => simp at hplace
  | cons slot slots ih =>
    obtain ⟨hnew, hnodup⟩ := List.nodup_cons.1 hnodup
    cases items with
    | nil =>
      rw [keepItems] at hread
      split at hread
      · obtain rfl := Except.ok.inj hread
        rfl
      · exact absurd hread (by simp)
    | cons j items =>
      rw [keepItems] at hread
      obtain ⟨u, hu, hread⟩ := bind_eq_ok.1 hread
      cases place with
      | zero =>
        obtain rfl := Option.some.inj hplace
        obtain ⟨a, ha, hview⟩ := h.own slot (by simp) rfl _ _ _ hu
        refine ⟨a, ha, ?_⟩
        refine keepItems_preserves (P := fun s => view s = out a) ?_ hread hview
        intro slot' hslot' _ _ s s' hs hsame
        have hother : slot'.name ≠ slot.name := fun heq =>
          hnew (List.mem_map.2 ⟨slot', hslot', heq⟩)
        rw [h.other slot' (by simp [hslot']) hother _ _ _ hs, hsame]
      | succ place =>
        have hother : slot.name ≠ name := by
          rintro rfl
          exact hnew (List.mem_of_getElem? hplace)
        have hsame : view u = view s := h.other slot (by simp) hother _ _ _ hu
        have hslots : Fills slots name decode view out :=
          ⟨fun slot' hslot' => h.own slot' (by simp [hslot']),
            fun slot' hslot' => h.other slot' (by simp [hslot'])⟩
        have hrest := ih hslots hplace hnodup hread
        unfold Filled at hrest ⊢
        rwa [hsame] at hrest

/-- A record that was read has its field where the slot of that name is. -/
lemma record_field {start : σ} {j : Json} {place : Nat} (hread : record slots start j = .ok t)
    (h : Fills slots name decode view out) (hplace : (slots.map (·.name))[place]? = some name)
    (hnodup : (slots.map (·.name)).Nodup) :
    Filled decode view out (j.part? name place) start t := by
  unfold record at hread
  split at hread
  next fields =>
    obtain ⟨slot, hslot, hname⟩ := List.mem_map.1 (List.mem_of_getElem? hplace)
    exact filled_of_keepFields place h ⟨slot, hslot, hname⟩ hread
  next items => exact filled_of_keepItems h hplace hnodup hread
  next => cases j <;> simp [mismatch] at hread

variable {field : Option Json} {a : α}

lemma filled_required {view : σ → Option α} (h : Filled decode view some field s t)
    (hs : view s = none) (ht : view t = some a) : ∃ j, field = some j ∧ decode j = .ok a := by
  unfold Filled at h
  split at h
  next => exact absurd (h.symm.trans ht) (by simp [hs])
  next j =>
    obtain ⟨b, hb, hview⟩ := h
    obtain rfl := Option.some.inj (hview.symm.trans ht)
    exact ⟨j, rfl, hb⟩

lemma filled_optional {view : σ → Option α} (h : Filled (optional decode) view id field s t)
    (hs : view s = none) :
    (field = none ∨ field = some .null) ∧ view t = none ∨
      ∃ j a, field = some j ∧ decode j = .ok a ∧ view t = some a := by
  unfold Filled at h
  split at h
  next => exact .inl ⟨.inl rfl, h.trans hs⟩
  next j =>
    obtain ⟨found, hfound, hview⟩ := h
    obtain ⟨rfl, rfl⟩ | ⟨a, ha, rfl⟩ := optional_eq_ok hfound
    · exact .inl ⟨.inr rfl, hview⟩
    · exact .inr ⟨j, a, rfl, ha, hview⟩

end CosmosClient.Proofs
