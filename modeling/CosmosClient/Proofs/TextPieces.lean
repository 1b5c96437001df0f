import Mathlib
import CosmosClient.Proofs.CoinText

/-!
# Words of texts

The words of a text are made of its characters, and blanks around the text make no difference to them.
-/

namespace CosmosClient.Proofs
open Text

lemma words_cons_blank {b : Char} (hb : isBlank b) (cs : List Char) :
    words (b :: cs) = words cs := by
  rw [words.eq_def]
  exact if_pos hb

lemma words_singleton {c : Char} (hc : isBlank c = false) : words [c] = [[c]] := by
  rw [words.eq_def]
  exact if_neg (by simp [hc])

lemma words_before_blank {c b : Char} (hc : isBlank c = false) (hb : isBlank b) (cs : List Char) :
    words (c :: b :: cs) = [c] :: words (b :: cs) := by
  rw [words.eq_def]
  simp only [hc, hb, Bool.false_eq_true, if_false, if_true]

/-- A character that is no blank begins a word, or the word that the next one begins. -/
lemma words_cons_cons {c d : Char} (hc : isBlank c = false) {cs piece : List Char}
    {pieces : List (List Char)} (hd : isBlank d = false)
    (hwords : words (d :: cs) = piece :: pieces) :
    words (c :: d :: cs) = (c :: piece) :: pieces := by
  rw [words.eq_def]
  simp only [hc, hd, hwords, Bool.false_eq_true, if_false]

lemma exists_word {c : Char} (hc : isBlank c = false) (cs : List Char) :
    ∃ piece pieces, words (c :: cs) = (c :: piece) :: pieces := by
  induction cs generalizing c with
  | nil => exact ⟨[], [], words_singleton hc⟩
  | cons d cs ih =>
    cases hd : isBlank d with
    | true => exact ⟨[], _, words_before_blank hc hd cs⟩
    | false =>
      obtain ⟨piece, pieces, hwords⟩ := ih hd
      exact ⟨_, _, words_cons_cons hc hd hwords⟩

lemma words_blank {front : List Char} (hfront : ∀ c ∈ front, isBlank c) (cs : List Char) :
    words (front ++ cs) = words cs := by
  induction front with
  | nil => rfl
  | cons b front ih =>
    rw [List.cons_append, words_cons_blank (hfront b (by simp)),
      ih fun c hc => hfront c (by simp [hc])]

lemma words_append_blank {back : List Char} (hback : ∀ c ∈ back, isBlank c) (cs : List Char) :
    words (cs ++ back) = words cs := by
  have hnone : words back = [] := by
    have hblank := words_blank hback []
    rwa [List.append_nil] at hblank
  induction cs with
  | nil => exact hnone
  | cons c cs ih =>
    cases hc : isBlank c with
    | true => rw [List.cons_append, words_cons_blank hc, words_cons_blank hc, ih]
    | false =>
      cases cs with
      | nil =>
        -- what follows the last character of the text is a blank, if anything
        cases back with
        | nil => rfl
        | cons b back =>
          rw [List.singleton_append, words_before_blank hc (hback b (by simp)), hnone,
            words_singleton hc]
      | cons d cs =>
        cases hd : isBlank d with
        | true =>
          rw [List.cons_append] at ih
          rw [List.cons_append, List.cons_append, words_before_blank hc hd, ih,
            words_before_blank hc hd]
        | false =>
          obtain ⟨piece, pieces, hwords⟩ := exists_word hd cs
          rw [words_cons_cons hc hd hwords]
          exact words_cons_cons hc hd (ih.trans hwords)

lemma words_trim (cs : List Char) : words (trim cs) = words cs := by
  obtain ⟨⟨front, back, hcs, hfront, hback⟩, -, -⟩ := trim_eq_iff.1 (rfl : trim cs = _)
  conv_rhs => rw [hcs]
  rw [words_append_blank hback, words_blank hfront]

/-- A property of the characters of a text is one of the characters of its words. -/
lemma forall_mem_words {cs : List Char} {P : Char → Prop} (h : ∀ c ∈ cs, P c) :
    ∀ piece ∈ words cs, ∀ c ∈ piece, P c := by
  induction cs with
  | nil => exact fun _ hpiece => absurd hpiece List.not_mem_nil
  | cons c cs ih =>
    have hfirst : P c := h c (by simp)
    have hrest := ih fun d hd => h d (by simp [hd])
    cases hc : isBlank c with
    | true => rwa [words_cons_blank hc]
    | false =>
      cases cs with
      | nil =>
        rw [words_singleton hc]
        simpa using hfirst
      | cons d cs =>
        cases hd : isBlank d with
        | true =>
          rw [words_before_blank hc hd]
          simpa using ⟨hfirst, hrest⟩
        | false =>
          obtain ⟨piece, pieces, hwords⟩ := exists_word hd cs
          rw [words_cons_cons hc hd hwords]
          rw [hwords] at hrest
          simpa [hfirst] using hrest

end CosmosClient.Proofs
