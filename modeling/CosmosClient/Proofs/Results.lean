import Mathlib

/-!
# Results that may be errors

When a chain of steps succeeds and when it fails: one step after another, a step on a result, the same
step on every item of a list.
-/

namespace CosmosClient.Proofs

variable {ε ε' α β : Type}

@[simp]
lemma pure_ok (a : α) : (pure a : Except ε α) = .ok a := rfl

@[simp]
lemma ok_bind (a : α) (f : α → Except ε β) : (.ok a >>= f) = f a := rfl

@[simp]
lemma map_ok (f : α → β) (a : α) : (.ok a : Except ε α).map f = .ok (f a) := rfl

@[simp]
lemma mapError_ok (f : ε → ε') (a : α) : (.ok a : Except ε α).mapError f = .ok a := rfl

lemma isOk_iff {x : Except ε α} : x.isOk = true ↔ ∃ a, x = .ok a := by
  cases x <;> simp [Except.isOk, Except.toBool]

lemma isOk_map {f : α → β} {x : Except ε α} : (x.map f).isOk = x.isOk := by
  cases x <;> rfl

lemma isOk_mapError {f : ε → ε'} {x : Except ε α} : (x.mapError f).isOk = x.isOk := by
  cases x <;> rfl

lemma bind_eq_ok {x : Except ε α} {f : α → Except ε β} {b : β} :
    (x >>= f) = .ok b ↔ ∃ a, x = .ok a ∧ f a = .ok b := by
  cases x <;> simp [bind, Except.bind]

lemma pure_eq_ok {a b : α} : (pure a : Except ε α) = .ok b ↔ a = b := by
  simp [pure, Except.pure]

lemma map_eq_ok {f : α → β} {x : Except ε α} {b : β} :
    x.map f = .ok b ↔ ∃ a, x = .ok a ∧ f a = b := by
  cases x <;> simp [Except.map]

lemma map_error_iff {f : α → β} {r : Except ε α} :
    (∃ e, r.map f = .error e) ↔ ∃ e, r = .error e := by
  cases r <;> simp [Except.map]

lemma mapError_eq_ok {f : ε → ε'} {x : Except ε α} {a : α} : x.mapError f = .ok a ↔ x = .ok a := by
  cases x <;> simp [Except.mapError]

lemma mapError_eq_error {f : ε → ε'} {x : Except ε α} {e' : ε'} :
    x.mapError f = .error e' ↔ ∃ e, x = .error e ∧ f e = e' := by
  cases x <;> simp [Except.mapError]

lemma toOption_eq_some {x : Except ε α} {a : α} : x.toOption = some a ↔ x = .ok a := by
  cases x <;> simp [Except.toOption]

lemma isSome_toOption (x : Except ε α) : x.toOption.isSome = x.isOk := by
  cases x <;> rfl

/-- What is read back from what it is written as is not written like another value. -/
lemma injective_of_read {write : α → β} {read : β → Except ε α} (h : ∀ a, read (write a) = .ok a) :
    Function.Injective write := by
  intro a b hab
  have hread := h a
  rw [hab, h b] at hread
  exact (Except.ok.inj hread).symm

lemma map_eq_self {f : α → α} {l : List α} (h : ∀ a ∈ l, f a = a) : l.map f = l :=
  (List.map_congr_left h).trans (List.map_id l)

lemma mapM_map_ok {f : α → β} {g : β → Except ε α} {l : List α}
    (h : ∀ a ∈ l, g (f a) = .ok a) : (l.map f).mapM g = .ok l := by
  induction l with
  | nil => rfl
  | cons a l ih =>
    rw [List.map_cons, List.mapM_cons, h a (by simp), ih fun b hb => h b (by simp [hb])]
    rfl

/-- Items of which each is read back from what it is written as. -/
lemma mapM_inverse {f : α → Except ε β} {g : β → Except ε' α} {l : List α}
    (h : ∀ a ∈ l, ∃ b, f a = .ok b ∧ g b = .ok a) :
    ∃ bs, l.mapM f = .ok bs ∧ bs.mapM g = .ok l := by
  induction l with
  | nil => exact ⟨[], rfl, rfl⟩
  | cons a l ih =>
    obtain ⟨b, hb, hback⟩ := h a (by simp)
    obtain ⟨bs, hbs, hrest⟩ := ih fun c hc => h c (by simp [hc])
    refine ⟨b :: bs, ?_, ?_⟩
    · simp only [List.mapM_cons, hb, hbs, ok_bind, pure_ok]
    · simp only [List.mapM_cons, hback, hrest, ok_bind, pure_ok]

lemma mapM_injective {f : α → Except ε β} {l l' : List α} {bs : List β}
    (hf : ∀ a ∈ l, ∀ a' ∈ l', ∀ b, f a = .ok b → f a' = .ok b → a = a') (h : l.mapM f = .ok bs)
    (h' : l'.mapM f = .ok bs) : l = l' := by
  induction l generalizing l' bs with
  | nil =>
    obtain rfl := pure_eq_ok.1 h
    cases l' with
    | nil => rfl
    | cons a' l' => simp [List.mapM_cons, bind_eq_ok] at h'
  | cons a l ih =>
    simp only [List.mapM_cons, bind_eq_ok, pure_eq_ok] at h
    obtain ⟨b, hb, bs, hbs, rfl⟩ := h
    cases l' with
    | nil => simp at h'
    | cons a' l' =>
      simp only [List.mapM_cons, bind_eq_ok, pure_eq_ok, List.cons.injEq] at h'
      obtain ⟨_, hb', _, hbs', rfl, rfl⟩ := h'
      obtain rfl := hf a (by simp) a' (by simp) _ hb hb'
      rw [ih (fun a ha a' ha' => hf a (by simp [ha]) a' (by simp [ha'])) hbs hbs']

lemma mapM_error_iff {f : α → Except ε β} {l : List α} :
    (∃ e, l.mapM f = .error e) ↔ ∃ a ∈ l, ∃ e, f a = .error e := by
  induction l with
  | nil => simp [pure, Except.pure]
  | cons a l ih =>
    rw [List.mapM_cons]
    cases ha : f a with
    | error e => simp [bind, Except.bind, ha]
    | ok b =>
      simp only [List.mem_cons, exists_eq_or_imp, ha, reduceCtorEq, exists_false, false_or, ← ih]
      cases hl : l.mapM f with
      | error e => simp [bind, Except.bind]
      | ok bs => simp [bind, Except.bind, pure, Except.pure]

lemma mapM_eq_ok {f : α → Except ε β} {l : List α} {bs : List β} :
    l.mapM f = .ok bs ↔ List.Forall₂ (fun a b => f a = .ok b) l bs := by
  induction l generalizing bs with
  | nil => rw [List.mapM_nil, pure_eq_ok, List.forall₂_nil_left_iff, eq_comm]
  | cons a l ih =>
    simp only [List.mapM_cons, bind_eq_ok, pure_eq_ok, ih, List.forall₂_cons_left_iff]
    constructor
    · rintro ⟨b, hb, bs, hbs, rfl⟩
      exact ⟨b, bs, hb, hbs, rfl⟩
    · rintro ⟨b, bs, hb, hbs, rfl⟩
      exact ⟨b, hb, bs, hbs, rfl⟩

lemma exists_ok_iff {x : Except ε α} : (∃ a, x = .ok a) ↔ ¬∃ e, x = .error e := by
  cases x <;> simp

lemma mapM_ok_iff {f : α → Except ε β} {l : List α} :
    (∃ bs, l.mapM f = .ok bs) ↔ ∀ a ∈ l, ∃ b, f a = .ok b := by
  simp only [exists_ok_iff, mapM_error_iff, not_exists, not_and]

/-- The results of a list stand in the places of its items. -/
lemma getElem?_of_mapM_eq_ok {f : α → Except ε β} {l : List α} {bs : List β} (h : l.mapM f = .ok bs)
    {i : Nat} {b : β} (hb : bs[i]? = some b) : ∃ a, l[i]? = some a ∧ f a = .ok b := by
  induction l generalizing bs i with
  | nil =>
    obtain rfl := pure_eq_ok.1 h
    simp at hb
  | cons a l ih =>
    rw [List.mapM_cons] at h
    obtain ⟨c, hc, h⟩ := bind_eq_ok.1 h
    obtain ⟨cs, hcs, h⟩ := bind_eq_ok.1 h
    obtain rfl := pure_eq_ok.1 h
    cases i with
    | zero =>
      obtain rfl := Option.some.inj hb
      exact ⟨a, rfl, hc⟩
    | succ i => exact ih hcs hb

lemma mem_of_mapM_eq_ok {f : α → Except ε β} {l : List α} {bs : List β} (h : l.mapM f = .ok bs) :
    ∀ b ∈ bs, ∃ a ∈ l, f a = .ok b := by
  intro b hb
  obtain ⟨i, hi⟩ := List.mem_iff_getElem?.1 hb
  obtain ⟨a, ha, hf⟩ := getElem?_of_mapM_eq_ok h hi
  exact ⟨a, List.mem_of_getElem? ha, hf⟩

lemma forall_mem_iff_of_mapM_eq_ok {f : α → Except ε β} {l : List α} {bs : List β} {P : β → Prop}
    {Q : α → Prop} (h : l.mapM f = .ok bs) (hiff : ∀ a ∈ l, ∀ b, f a = .ok b → (P b ↔ Q a)) :
    (∀ b ∈ bs, P b) ↔ ∀ a ∈ l, Q a := by
  have hplaces := mapM_eq_ok.1 h
  clear h
  induction hplaces with
  | nil => simp
  | cons hf _ ih =>
    rw [List.forall_mem_cons, List.forall_mem_cons]
    exact and_congr (hiff _ List.mem_cons_self _ hf)
      (ih fun a ha => hiff a (List.mem_cons_of_mem _ ha))

/-- Results that are each written as the item they come from are written as the list. -/
lemma mapM_of_mapM_eq_ok {f : α → Except ε β} {g : β → Except ε' α} {l : List α} {bs : List β}
    (h : l.mapM f = .ok bs) (hg : ∀ a ∈ l, ∀ b, f a = .ok b → g b = .ok a) : bs.mapM g = .ok l := by
  induction l generalizing bs with
  | nil =>
    obtain rfl := pure_eq_ok.1 h
    rfl
  | cons a l ih =>
    rw [List.mapM_cons] at h
    obtain ⟨b, hb, h⟩ := bind_eq_ok.1 h
    obtain ⟨cs, hcs, h⟩ := bind_eq_ok.1 h
    obtain rfl := pure_eq_ok.1 h
    rw [List.mapM_cons, hg a (by simp) b hb, ih hcs fun c hc => hg c (by simp [hc])]
    rfl

lemma map_of_mapM_eq_ok {f : α → Except ε β} {g : β → α} {l : List α} {bs : List β}
    (h : l.mapM f = .ok bs) (hg : ∀ a ∈ l, ∀ b, f a = .ok b → g b = a) : bs.map g = l := by
  have hback : bs.mapM (fun b => (pure (g b) : Except ε α)) = .ok l :=
    mapM_of_mapM_eq_ok h fun a ha b hb => congrArg _ (hg a ha b hb)
  rw [List.mapM_pure] at hback
  exact pure_eq_ok.1 hback

end CosmosClient.Proofs
