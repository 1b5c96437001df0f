import Mathlib
import CosmosClient.Json.Decode

/-!
# Values with sorted fields

The normal form of a document has the fields of every object in increasing order of their keys. It
neither changes a document of this form nor brings in a flaw of the text.
-/

namespace CosmosClient.Json

/-- Whether the keys of fields increase. -/
def Increasing (fields : List (String × Json)) : Prop :=
  fields.Pairwise fun a b => a.1 < b.1

/-- Whether a document is a value, apart from any text: its fields are sorted and none is repeated,
and it has no flaw. -/
def IsValue (j : Json) : Prop :=
  j.normal = j ∧ firstFlaw j = none

end CosmosClient.Json

namespace CosmosClient.Proofs
open Json

lemma insertField_last {key : String} {value : Json} {fields : List (String × Json)}
    (h : ∀ f ∈ fields, f.1 < key) : insertField key value fields = fields ++ [(key, value)] := by
  induction fields with
  | nil => rfl
  | cons f fields ih =>
    have hf : f.1 < key := h f (by simp)
    have hnot : ¬key < f.1 := fun hlt => String.lt_irrefl _ (String.lt_trans hlt hf)
    have hne : key ≠ f.1 := fun he => absurd hf (he ▸ String.lt_irrefl _)
    rw [insertField, if_neg hnot, if_neg hne, ih fun g hg => h g (by simp [hg])]
    rfl

lemma mem_insertField {key : String} {value : Json} {f : String × Json}
    {fields : List (String × Json)} (h : f ∈ insertField key value fields) :
    f = (key, value) ∨ f ∈ fields := by
  induction fields with
  | nil => exact .inl (List.mem_singleton.1 h)
  | cons g fields ih =>
    rw [insertField] at h
    split at h
    · exact (List.mem_cons.1 h).imp_right id
    · split at h
      · exact (List.mem_cons.1 h).imp_right fun hf => by simp [hf]
      · rcases List.mem_cons.1 h with rfl | hf
        · simp
        · exact (ih hf).imp_right fun hmem => by simp [hmem]

lemma insertField_increasing {key : String} {value : Json} {fields : List (String × Json)}
    (h : Increasing fields) : Increasing (insertField key value fields) := by
  induction fields with
  | nil => exact List.pairwise_singleton _ _
  | cons g fields ih =>
    obtain ⟨hg, hfields⟩ := List.pairwise_cons.1 h
    rw [insertField]
    split
    next hlt =>
      refine List.pairwise_cons.2 ⟨fun f hf => ?_, h⟩
      rcases List.mem_cons.1 hf with rfl | hf
      · exact hlt
      · exact String.lt_trans hlt (hg f hf)
    next hnot =>
      split
      next heq => exact List.pairwise_cons.2 ⟨fun f hf => heq ▸ hg f hf, hfields⟩
      next hne =>
        refine List.pairwise_cons.2 ⟨fun f hf => ?_, ih hfields⟩
        rcases mem_insertField hf with rfl | hf
        · exact lt_of_le_of_ne (not_lt.1 hnot) (Ne.symm hne)
        · exact hg f hf

lemma foldl_insertField {fields sorted : List (String × Json)}
    (h : Increasing (sorted ++ fields)) :
    fields.foldl (fun sorted (k, v) => insertField k v sorted) sorted = sorted ++ fields := by
  induction fields generalizing sorted with
  | nil => simp
  | cons f fields ih =>
    obtain ⟨key, value⟩ := f
    have hlast : insertField key value sorted = sorted ++ [(key, value)] :=
      insertField_last fun g hg => (List.pairwise_append.1 h).2.2 g hg (key, value) (by simp)
    simp only [List.foldl_cons, hlast]
    rw [ih (by simpa using h), List.append_assoc, List.singleton_append]

/-- Sorted fields stay as they are. -/
lemma sortFields_of_increasing {fields : List (String × Json)} (h : Increasing fields) :
    sortFields fields = fields :=
  foldl_insertField h

lemma foldl_increasing {fields sorted : List (String × Json)} (h : Increasing sorted) :
    Increasing (fields.foldl (fun sorted (k, v) => insertField k v sorted) sorted) := by
  induction fields generalizing sorted with
  | nil => exact h
  | cons f fields ih => exact ih (insertField_increasing h)

lemma sortFields_increasing (fields : List (String × Json)) : Increasing (sortFields fields) :=
  foldl_increasing .nil

lemma mem_foldl_insertField {f : String × Json} {fields sorted : List (String × Json)}
    (h : f ∈ fields.foldl (fun sorted (k, v) => insertField k v sorted) sorted) :
    f ∈ sorted ∨ f ∈ fields := by
  induction fields generalizing sorted with
  | nil => exact .inl h
  | cons g fields ih =>
    rcases ih h with hf | hf
    · rcases mem_insertField hf with rfl | hf
      · simp
      · exact .inl hf
    · simp [hf]

lemma mem_of_mem_sortFields {f : String × Json} {fields : List (String × Json)}
    (h : f ∈ sortFields fields) : f ∈ fields :=
  (mem_foldl_insertField h).resolve_left (by simp)

lemma mem_insertField_of_ne {key : String} {value : Json} {f : String × Json}
    {fields : List (String × Json)} (hf : f ∈ fields) (hne : f.1 ≠ key) :
    f ∈ insertField key value fields := by
  induction fields with
  | nil => simp at hf
  | cons g fields ih =>
    rw [insertField]
    split
    next => exact List.mem_cons_of_mem _ hf
    next =>
      rcases List.mem_cons.1 hf with rfl | hf
      · rw [if_neg (Ne.symm hne)]
        exact List.mem_cons_self
      · split
        · exact List.mem_cons_of_mem _ hf
        · exact List.mem_cons_of_mem _ (ih hf)

lemma mem_insertField_self (key : String) (value : Json) (fields : List (String × Json)) :
    (key, value) ∈ insertField key value fields := by
  induction fields with
  | nil => exact List.mem_singleton_self _
  | cons g fields ih =>
    rw [insertField]
    split
    · exact List.mem_cons_self
    · split
      · exact List.mem_cons_self
      · exact List.mem_cons_of_mem _ ih

lemma mem_foldl_of_mem {f : String × Json} {fields sorted : List (String × Json)}
    (hkeys : (fields.map (·.1)).Nodup) (h : f ∈ fields ∨ (f ∈ sorted ∧ f.1 ∉ fields.map (·.1))) :
    f ∈ fields.foldl (fun sorted (k, v) => insertField k v sorted) sorted := by
  induction fields generalizing sorted with
  | nil => simpa using h
  | cons g fields ih =>
    obtain ⟨hg, hkeys⟩ := List.nodup_cons.1 hkeys
    apply ih hkeys
    rcases h with h | ⟨h, hnew⟩
    · rcases List.mem_cons.1 h with rfl | h
      · exact .inr ⟨mem_insertField_self _ _ _, hg⟩
      · exact .inl h
    · rw [List.map_cons, List.mem_cons, not_or] at hnew
      exact .inr ⟨mem_insertField_of_ne h hnew.1, hnew.2⟩

/-- Fields of different keys are sorted into the only increasing order that they have. -/
lemma sortFields_of_perm {fields sorted : List (String × Json)} (hperm : fields.Perm sorted)
    (hsorted : Increasing sorted) : sortFields fields = sorted := by
  have hnodup {l : List (String × Json)} (hl : Increasing l) : (l.map (·.1)).Nodup := by
    rw [List.Nodup, List.pairwise_map]
    refine hl.imp ?_
    intro a b hlt heq
    exact String.lt_irrefl _ (heq ▸ hlt)
  have hkeys : (fields.map (·.1)).Nodup := (hperm.map (·.1)).nodup_iff.2 (hnodup hsorted)
  have hincreasing := sortFields_increasing fields
  have hmem (f : String × Json) : f ∈ sortFields fields ↔ f ∈ sorted := by
    rw [← hperm.mem_iff]
    exact ⟨mem_of_mem_sortFields, fun hf => mem_foldl_of_mem hkeys (.inl hf)⟩
  have hsame : (sortFields fields).Perm sorted :=
    (List.perm_ext_iff_of_nodup (hnodup hincreasing).of_map (hnodup hsorted).of_map).2 hmem
  exact hsame.eq_of_pairwise (fun a b _ _ hab hba => absurd (String.lt_trans hab hba)
    (String.lt_irrefl _)) hincreasing hsorted

lemma normalItems_eq (items : List Json) : normalItems items = items.map normal := by
  induction items with
  | nil => rfl
  | cons j items ih => rw [normalItems, ih, List.map_cons]

lemma normalFields_eq (fields : List (String × Json)) :
    normalFields fields = fields.map fun f => (f.1, f.2.normal) := by
  induction fields with
  | nil => rfl
  | cons f fields ih => rw [normalFields, ih, List.map_cons]

/-- Sorted fields stay in their places. -/
lemma normal_of_increasing {fields : List (String × Json)} (h : Increasing fields) :
    (Json.obj fields).normal = .obj (fields.map fun f => (f.1, f.2.normal)) := by
  rw [normal, normalFields_eq, sortFields_of_increasing]
  exact List.pairwise_map.2 h

/-- Sorted fields with normal values stay as they are. -/
lemma normal_obj {fields : List (String × Json)} (hkeys : Increasing fields)
    (hvalues : ∀ f ∈ fields, f.2.normal = f.2) : (Json.obj fields).normal = .obj fields := by
  have hfields : fields.map (fun f => (f.1, f.2.normal)) = fields := by
    refine (List.map_congr_left fun f hf => ?_).trans (List.map_id fields)
    rw [hvalues f hf, id]
  rw [normal_of_increasing hkeys, hfields]

lemma normal_arr {items : List Json} (h : ∀ j ∈ items, j.normal = j) :
    (Json.arr items).normal = .arr items := by
  rw [normal, normalItems_eq, List.map_congr_left h, List.map_id']

mutual
/-- A normal form is its own normal form. -/
lemma normal_normal (j : Json) : j.normal.normal = j.normal := by
  match j with
  | .arr items =>
    rw [normal]
    exact normal_arr (normalItems_normal items)
  | .obj fields =>
    rw [normal]
    exact normal_obj (sortFields_increasing _)
      fun f hf => normalFields_normal fields f (mem_of_mem_sortFields hf)
  | .null | .bool _ | .int _ | .float _ | .str _ | .flaw _ _ => rfl

lemma normalItems_normal (items : List Json) : ∀ j ∈ normalItems items, j.normal = j := by
  match items with
  | [] => simp [normalItems]
  | j :: items =>
    rw [normalItems]
    exact List.forall_mem_cons.2 ⟨normal_normal j, normalItems_normal items⟩

lemma normalFields_normal (fields : List (String × Json)) :
    ∀ f ∈ normalFields fields, f.2.normal = f.2 := by
  match fields with
  | [] => simp [normalFields]
  | (key, j) :: fields =>
    rw [normalFields]
    exact List.forall_mem_cons.2 ⟨normal_normal j, normalFields_normal fields⟩
end

lemma firstFlawItems_eq_none {items : List Json} :
    firstFlawItems items = none ↔ ∀ j ∈ items, firstFlaw j = none := by
  induction items with
  | nil => simp [firstFlawItems]
  | cons j items ih => simp [firstFlawItems, ih]

lemma firstFlawItems_map {α : Type} {write : α → Json} {l : List α}
    (h : ∀ a ∈ l, firstFlaw (write a) = none) : firstFlawItems (l.map write) = none := by
  rw [firstFlawItems_eq_none]
  exact List.forall_mem_map.2 h

lemma firstFlawFields_eq_none {fields : List (String × Json)} :
    firstFlawFields fields = none ↔ ∀ f ∈ fields, firstFlaw f.2 = none := by
  induction fields with
  | nil => simp [firstFlawFields]
  | cons f fields ih => simp [firstFlawFields, ih]

mutual
lemma firstFlaw_normal (j : Json) (h : firstFlaw j = none) : firstFlaw j.normal = none := by
  match j with
  | .arr items =>
    rw [firstFlaw, firstFlawItems_eq_none] at h
    rw [normal, firstFlaw, firstFlawItems_eq_none]
    exact firstFlaw_normalItems items h
  | .obj fields =>
    rw [firstFlaw, firstFlawFields_eq_none] at h
    rw [normal, firstFlaw, firstFlawFields_eq_none]
    exact fun f hf => firstFlaw_normalFields fields h f (mem_of_mem_sortFields hf)
  | .null | .bool _ | .int _ | .float _ | .str _ | .flaw _ _ => exact h

lemma firstFlaw_normalItems (items : List Json) (h : ∀ j ∈ items, firstFlaw j = none) :
    ∀ j ∈ normalItems items, firstFlaw j = none := by
  match items with
  | [] => simp [normalItems]
  | j :: items =>
    obtain ⟨hj, hitems⟩ := List.forall_mem_cons.1 h
    rw [normalItems]
    exact List.forall_mem_cons.2 ⟨firstFlaw_normal j hj, firstFlaw_normalItems items hitems⟩

lemma firstFlaw_normalFields (fields : List (String × Json))
    (h : ∀ f ∈ fields, firstFlaw f.2 = none) :
    ∀ f ∈ normalFields fields, firstFlaw f.2 = none := by
  match fields with
  | [] => simp [normalFields]
  | (key, j) :: fields =>
    obtain ⟨hj, hfields⟩ := List.forall_mem_cons.1 h
    rw [normalFields]
    exact List.forall_mem_cons.2 ⟨firstFlaw_normal j hj, firstFlaw_normalFields fields hfields⟩
end

/-- The normal form of a document without flaws is a value. -/
lemma isValue_normal {j : Json} (h : firstFlaw j = none) : j.normal.IsValue :=
  ⟨normal_normal j, firstFlaw_normal j h⟩

lemma any_of_isValue {j : Json} (h : j.IsValue) : Json.any j = .ok j := by
  obtain ⟨hnormal, hflaw⟩ := h
  rw [Json.any, whole, hflaw]
  simp only [hnormal, settle, Except.mapError]

end CosmosClient.Proofs
