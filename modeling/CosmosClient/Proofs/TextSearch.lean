import Mathlib
import CosmosClient.Text.Basic

/-!
# Separators, phrases and lines of texts

A given beginning or end is taken off exactly the texts that have it, and a text is split at its first
or its last separator. A phrase is found behind the text that it does not occur in, even if that text
ends in a part of the phrase, as long as no proper beginning of the phrase is also its end. The lines
of a text lie in it between line feeds.
-/

namespace CosmosClient.Text

/-- A phrase that ends in no proper beginning of its own, so that two places of it never overlap. -/
def Unbordered (phrase : List Char) : Prop :=
  ∀ border, border <+: phrase → border <:+ phrase → border = [] ∨ border = phrase

instance (phrase : List Char) : Decidable (Unbordered phrase) :=
  decidable_of_iff (∀ border ∈ phrase.inits, border <:+ phrase → border = [] ∨ border = phrase)
    (by simp only [Unbordered, List.mem_inits])

/-- A part of a text without line feeds that begins the text or follows a line feed, and that ends the
text or comes before a line feed, perhaps with a carriage return between them. -/
def IsLine (line cs : List Char) : Prop :=
  '\n' ∉ line ∧ ∃ before after, cs = before ++ line ++ after ∧
    (before = [] ∨ before.getLast? = some '\n') ∧
    (after = [] ∨ ∃ rest, after = '\n' :: rest ∨ after = '\r' :: '\n' :: rest)

end CosmosClient.Text

namespace CosmosClient.Proofs
open Text

lemma strip?_eq_some {beginning cs rest : List Char} :
    strip? beginning cs = some rest ↔ cs = beginning ++ rest := by
  induction beginning generalizing cs with
  | nil => simp [strip?]
  | cons p ps ih =>
    cases cs with
    | nil => simp [strip?]
    | cons c cs =>
      rw [strip?, List.cons_append, List.cons.injEq]
      by_cases hp : p = c
      · rw [if_pos hp, ih, and_iff_right hp.symm]
      · rw [if_neg hp]
        exact iff_of_false (by simp) fun h => hp h.1.symm

lemma strip?_eq_none {beginning cs : List Char} :
    strip? beginning cs = none ↔ ¬beginning <+: cs := by
  rw [Option.eq_none_iff_forall_ne_some]
  constructor
  · rintro hnone ⟨rest, hrest⟩
    exact hnone rest (strip?_eq_some.2 hrest.symm)
  · intro hbegin rest hrest
    exact hbegin ⟨rest, (strip?_eq_some.1 hrest).symm⟩

lemma stripEnd?_eq_some {ending cs front : List Char} :
    stripEnd? ending cs = some front ↔ cs = front ++ ending := by
  rw [stripEnd?, Option.map_eq_some_iff]
  simp only [strip?_eq_some]
  constructor
  · rintro ⟨rest, hcs, rfl⟩
    simpa using congrArg List.reverse hcs
  · rintro rfl
    exact ⟨front.reverse, by simp, List.reverse_reverse front⟩

lemma split_eq_splitOn (sep : Char) (cs : List Char) : split sep cs = cs.splitOn sep := by
  induction cs with
  | nil => rfl
  | cons c cs ih =>
    rw [split, ih]
    unfold List.splitOn
    rw [List.splitOnP_cons_eq_if_modifyHead]
    by_cases hc : c = sep
    · rw [if_pos hc, if_pos (beq_iff_eq.2 hc)]
    · obtain ⟨piece, pieces, hpieces⟩ := List.exists_cons_of_ne_nil
        (List.splitOnP_ne_nil (fun x => x == sep) cs)
      rw [if_neg hc, if_neg fun heq => hc (beq_iff_eq.1 heq), hpieces]
      rfl

lemma splitFirst?_eq_some {sep : Char} {cs front back : List Char} :
    splitFirst? sep cs = some (front, back) ↔ cs = front ++ sep :: back ∧ sep ∉ front := by
  induction cs generalizing front with
  | nil => simp [splitFirst?]
  | cons c cs ih =>
    rw [splitFirst?]
    by_cases hc : c = sep
    · subst hc
      cases front with
      | nil => simp
      | cons f front =>
        rw [if_pos rfl]
        refine iff_of_false (by simp) ?_
        rintro ⟨hcs, hnot⟩
        exact hnot (by simp [(List.cons.inj hcs).1])
    · rw [if_neg hc, Option.map_eq_some_iff]
      constructor
      · rintro ⟨⟨front, back⟩, hsplit, hparts⟩
        obtain ⟨rfl, rfl⟩ := Prod.mk.inj hparts
        obtain ⟨rfl, hnot⟩ := ih.1 hsplit
        exact ⟨rfl, by simp [hnot, Ne.symm hc]⟩
      · rintro ⟨hcs, hnot⟩
        cases front with
        | nil => exact absurd (List.cons.inj hcs).1 hc
        | cons f front =>
          obtain ⟨rfl, rfl⟩ := List.cons.inj hcs
          exact ⟨(front, back), ih.2 ⟨rfl, fun h => hnot (by simp [h])⟩, rfl⟩

lemma splitLast?_eq_some {sep : Char} {cs front back : List Char} :
    splitLast? sep cs = some (front, back) ↔ cs = front ++ sep :: back ∧ sep ∉ back := by
  have hreverse : cs.reverse = back.reverse ++ sep :: front.reverse ↔ cs = front ++ sep :: back := by
    rw [← List.reverse_inj]
    simp
  rw [splitLast?, Option.map_eq_some_iff, ← hreverse, ← List.mem_reverse,
    ← splitFirst?_eq_some]
  constructor
  · rintro ⟨⟨x, y⟩, hsplit, hparts⟩
    obtain ⟨rfl, rfl⟩ := Prod.mk.inj hparts
    simpa using hsplit
  · intro hsplit
    exact ⟨_, hsplit, by simp⟩

/-- A place of the phrase that begins before another place ends before it too. -/
lemma infix_of_overlap {phrase front rest : List Char} (hphrase : Unbordered phrase)
    (hfront : front ≠ []) (h : phrase <+: front ++ phrase ++ rest) : phrase <:+: front := by
  obtain ⟨later, hlater⟩ := h
  rw [List.append_assoc, List.append_eq_append_iff] at hlater
  obtain ⟨gap, rfl, -⟩ | ⟨border, hfirst, hsecond⟩ := hlater
  · exact (List.prefix_append phrase gap).isInfix
  · -- what the two places share would begin and end the phrase
    have hends : border <:+ phrase := ⟨front, hfirst.symm⟩
    have hbegins : border <+: phrase :=
      List.prefix_of_prefix_length_le ⟨later, hsecond.symm⟩ (List.prefix_append phrase rest)
        hends.length_le
    rcases hphrase border hbegins hends with rfl | rfl
    · rw [List.append_nil] at hfirst
      rw [hfirst]
    · exact absurd (List.self_eq_append_left.1 hfirst) hfront

/-- The phrase is found behind the text that it does not occur in. -/
lemma after?_eq_some {phrase cs rest : List Char} (hne : phrase ≠ []) (hphrase : Unbordered phrase) :
    after? phrase cs = some rest ↔ ∃ front, cs = front ++ phrase ++ rest ∧ ¬phrase <:+: front := by
  induction cs with
  | nil =>
    rw [after?, strip?_eq_some]
    simp [hne]
  | cons c cs ih =>
    rw [after?]
    cases hstrip : strip? phrase (c :: cs) with
    | some found =>
      have hcs : c :: cs = phrase ++ found := strip?_eq_some.1 hstrip
      rw [Option.some.injEq]
      constructor
      · rintro rfl
        exact ⟨[], hcs, by simpa using hne⟩
      · rintro ⟨front, hfront, hnot⟩
        have hnil : front = [] := by
          by_contra hfirst
          exact hnot (infix_of_overlap hphrase hfirst ⟨found, hcs.symm.trans hfront⟩)
        subst hnil
        exact List.append_cancel_left (hcs.symm.trans hfront)
    | none =>
      have hnone : ¬phrase <+: c :: cs := strip?_eq_none.1 hstrip
      rw [ih]
      constructor
      · rintro ⟨front, rfl, hnot⟩
        refine ⟨c :: front, rfl, fun hwithin => ?_⟩
        rcases List.infix_cons_iff.1 hwithin with hbegin | hwithin
        · refine hnone (hbegin.trans ?_)
          rw [List.append_assoc]
          exact List.prefix_append (c :: front) (phrase ++ rest)
        · exact hnot hwithin
      · rintro ⟨front, hcs, hnot⟩
        cases front with
        | nil => exact absurd ⟨rest, hcs.symm⟩ hnone
        | cons d front =>
          obtain ⟨rfl, rfl⟩ := List.cons.inj hcs
          exact ⟨front, rfl, fun hwithin => hnot (List.infix_cons hwithin)⟩

lemma holds_iff {phrase cs : List Char} : holds phrase cs ↔ phrase <:+: cs := by
  rw [holds]
  induction cs with
  | nil =>
    rw [after?, List.infix_nil]
    cases phrase <;> simp [strip?]
  | cons c cs ih =>
    rw [after?, List.infix_cons_iff]
    cases hstrip : strip? phrase (c :: cs) with
    | some rest => exact iff_of_true rfl (.inl ⟨rest, (strip?_eq_some.1 hstrip).symm⟩)
    | none => exact ih.trans (or_iff_right (strip?_eq_none.1 hstrip)).symm

lemma chomp_cases (line : List Char) : chomp line = line ∨ line = chomp line ++ ['\r'] := by
  rw [chomp]
  cases hstrip : stripEnd? ['\r'] line with
  | none => exact .inl rfl
  | some front => exact .inr (stripEnd?_eq_some.1 hstrip)

lemma chomp_prefix_self (line : List Char) : chomp line <+: line := by
  rcases chomp_cases line with hchomp | hchomp
  · rw [hchomp]
  · exact ⟨['\r'], hchomp.symm⟩

lemma lines_of_notMem {cs : List Char} (hne : cs ≠ []) (h : '\n' ∉ cs) : lines cs = [cs] := by
  obtain ⟨c, cs, rfl⟩ := List.exists_cons_of_ne_nil hne
  simp only [lines, split_eq_splitOn, List.splitOn_eq_singleton h]
  rfl

lemma lines_append {piece : List Char} (h : '\n' ∉ piece) (cs : List Char) :
    lines (piece ++ '\n' :: cs) = chomp piece :: lines cs := by
  have hpieces : cs.splitOn '\n' ≠ [] := List.splitOn_ne_nil '\n' cs
  have hfeed : ∀ c ∈ piece, (c == '\n') = false :=
    fun c hc => beq_eq_false_iff_ne.2 (ne_of_mem_of_not_mem hc h)
  have hsplit : (piece ++ '\n' :: cs).splitOn '\n' = piece :: cs.splitOn '\n' :=
    List.splitOnP_append_cons_of_forall_mem hfeed '\n' rfl cs
  simp only [lines, split_eq_splitOn, hsplit, List.dropLast_cons_of_ne_nil hpieces,
    List.getLast?_cons_of_ne_nil hpieces, List.map_cons, List.cons_append]

/-- A text has no line feed, or it has a first piece before one and a text behind it. -/
@[elab_as_elim]
lemma lines_induction {P : List Char → Prop} (last : ∀ cs, '\n' ∉ cs → P cs)
    (more : ∀ piece cs, '\n' ∉ piece → P cs → P (piece ++ '\n' :: cs)) (cs : List Char) : P cs := by
  have hfrom : ∀ piece, '\n' ∉ piece → P (piece ++ cs) := by
    induction cs with
    | nil => simpa using last
    | cons c cs ih =>
      intro piece hpiece
      by_cases hc : c = '\n'
      · subst hc
        exact more piece cs hpiece (ih [] (by simp))
      · have hnext := ih (piece ++ [c]) (by simp [hpiece, Ne.symm hc])
        rwa [List.append_assoc, List.singleton_append] at hnext
  exact hfrom [] (by simp)

lemma isLine_of_mem_lines {line cs : List Char} (h : line ∈ lines cs) : IsLine line cs := by
  induction cs using lines_induction with
  | last cs hcs =>
    by_cases hne : cs = []
    · subst hne
      simp [lines, split] at h
    · rw [lines_of_notMem hne hcs, List.mem_singleton] at h
      subst h
      exact ⟨hcs, [], [], by simp, .inl rfl, .inl rfl⟩
  | more piece cs hpiece ih =>
    rw [lines_append hpiece, List.mem_cons] at h
    rcases h with rfl | h
    · rcases chomp_cases piece with hchomp | hchomp
      · rw [hchomp]
        exact ⟨hpiece, [], '\n' :: cs, by simp, .inl rfl, .inr ⟨cs, .inl rfl⟩⟩
      · refine ⟨fun hmem => hpiece ((chomp_prefix_self piece).mem hmem), [], '\r' :: '\n' :: cs, ?_,
          .inl rfl, .inr ⟨cs, .inr rfl⟩⟩
        conv_lhs => rw [hchomp]
        simp
    · obtain ⟨hline, before, after, rfl, hbefore, hafter⟩ := ih h
      refine ⟨hline, piece ++ '\n' :: before, after, by simp, .inr ?_, hafter⟩
      rcases hbefore with rfl | hbefore
      · simp
      · simp [List.getLast?_cons, hbefore]

lemma infix_of_isLine {line cs : List Char} (h : IsLine line cs) : line <:+: cs := by
  obtain ⟨-, before, after, rfl, -⟩ := h
  exact List.infix_append before line after

/-- A text without line feeds before a character that ends no line begins the first line. -/
lemma lines_head {start : List Char} {c : Char} (hstart : '\n' ∉ start) (hfeed : c ≠ '\n')
    (hreturn : c ≠ '\r') (cs : List Char) :
    ∃ back rest, lines (start ++ c :: cs) = (start ++ c :: back) :: rest := by
  have hline {back : List Char} (hback : '\n' ∉ back) : '\n' ∉ start ++ c :: back := by
    simp [hstart, hback, Ne.symm hfeed]
  by_cases hmem : '\n' ∈ cs
  · obtain ⟨back, rest, rfl, hback⟩ := List.eq_append_cons_of_mem hmem
    rw [← List.cons_append, ← List.append_assoc, lines_append (hline hback)]
    rcases chomp_cases (start ++ c :: back) with hchomp | hchomp
    · exact ⟨back, lines rest, by rw [hchomp]⟩
    · -- the carriage return that is taken off lies behind the character
      obtain rfl | ⟨back, d, rfl⟩ := List.eq_nil_or_concat back
      · obtain ⟨-, hlast⟩ := List.append_inj' hchomp rfl
        exact absurd (List.singleton_inj.1 hlast) hreturn
      · rw [List.concat_eq_append, ← List.cons_append, ← List.append_assoc] at hchomp ⊢
        exact ⟨back, lines rest, by rw [← (List.append_inj' hchomp rfl).1]⟩
  · exact ⟨cs, [], lines_of_notMem (by simp) (hline hmem)⟩

end CosmosClient.Proofs
