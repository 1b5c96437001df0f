import Mathlib
import CosmosClient.Proofs.JsonReading
import CosmosClient.Proofs.TextSearch
import CosmosClient.Wallet

/-!
# Sequences that messages name

The sequence that the chain expects is found in a message behind the phrase before it, whatever
stands around them. Nothing is found in a message without the phrase, and what is found stands in the
first line that names a sequence.
-/

namespace CosmosClient.Setback

/-- A line in which the first phrase is followed by a text that is read as the sequence, and then by a
comma. -/
def Names (line : List Char) (sequence : UInt64) : Prop :=
  ∃ front digits back, line = front ++ phrase.toList ++ digits ++ ',' :: back ∧
    ¬phrase.toList <:+: front ∧ Number.readUInt64 digits = .ok sequence

end CosmosClient.Setback

namespace CosmosClient.Proofs
open Setback Text

lemma comma_notMem_number {digits : List Char} {n : UInt64} (h : Number.readUInt64 digits = .ok n) :
    ',' ∉ digits := by
  obtain ⟨k, hk, -⟩ := map_eq_ok.1 h
  exact fun hmem => absurd (mem_readNat hk ',' hmem) (by decide)

lemma unbordered_phrase : Unbordered phrase.toList := by decide +kernel

lemma phrase_ne_nil : phrase.toList ≠ [] := by decide

lemma feed_notMem_phrase : '\n' ∉ phrase.toList := by decide

/-- The sequence of a line is the one that the line names. -/
lemma expectedInLine?_eq_some {line : List Char} {n : UInt64} :
    expectedInLine? line = some n ↔ Names line n := by
  simp only [expectedInLine?, Option.bind_eq_bind, Option.bind_eq_some_iff,
    after?_eq_some phrase_ne_nil unbordered_phrase, toOption_eq_some]
  constructor
  · rintro ⟨rest, ⟨front, rfl, hfront⟩, ⟨digits, back⟩, hsplit, hread⟩
    obtain ⟨rfl, -⟩ := splitFirst?_eq_some.1 hsplit
    exact ⟨front, digits, back, by simp, hfront, hread⟩
  · rintro ⟨front, digits, back, rfl, hfront, hread⟩
    refine ⟨digits ++ ',' :: back, ⟨front, by simp, hfront⟩, (digits, back), ?_, hread⟩
    exact splitFirst?_eq_some.2 ⟨rfl, comma_notMem_number hread⟩

lemma phrase_of_names {line : List Char} {n : UInt64} (h : Names line n) :
    phrase.toList <:+: line := by
  obtain ⟨front, digits, back, rfl, -⟩ := h
  rw [List.append_assoc]
  exact List.infix_append front _ _

lemma expectedInLine?_eq_none {line : List Char} (h : ¬phrase.toList <:+: line) :
    expectedInLine? line = none := by
  rw [Option.eq_none_iff_forall_ne_some]
  exact fun n hn => h (phrase_of_names (expectedInLine?_eq_some.1 hn))

/-- The sequence of a message is the one of its first line that names one. -/
theorem expected?_eq_some {message : String} {n : UInt64} : expected? message = some n ↔
    ∃ before line after, lines message.toList = before ++ line :: after ∧ Names line n ∧
      ∀ earlier ∈ before, ∀ m, ¬Names earlier m := by
  rw [expected?, List.findSome?_eq_some_iff]
  simp only [expectedInLine?_eq_some, Option.eq_none_iff_forall_ne_some, ne_eq]

/-- The lines before the phrase are without it, and so is its own line up to it. -/
lemma findSome?_lines {front : List Char} (hfront : ¬phrase.toList <:+: front) (n : UInt64)
    (back : List Char) :
    (lines (front ++ (phrase.toList ++ Number.digits n.toNat ++ ',' :: back))).findSome?
      expectedInLine? = some n := by
  induction front using lines_induction with
  | last front hfeed =>
    have hdigits : '\n' ∉ Number.digits n.toNat :=
      fun hmem => absurd (isDigit_of_mem_digits '\n' hmem) (by decide)
    have hstart : '\n' ∉ front ++ phrase.toList ++ Number.digits n.toNat := by
      simp only [List.mem_append, not_or]
      exact ⟨⟨hfeed, feed_notMem_phrase⟩, hdigits⟩
    obtain ⟨ending, rest, hlines⟩ := lines_head hstart (by decide : ',' ≠ '\n') (by decide) back
    have hnames : Names (front ++ phrase.toList ++ Number.digits n.toNat ++ ',' :: ending) n :=
      ⟨front, _, ending, rfl, hfront, readUInt64_digits n⟩
    rw [← List.append_assoc, ← List.append_assoc, hlines, List.findSome?_cons,
      expectedInLine?_eq_some.2 hnames]
  | more piece front hpiece ih =>
    have hnone : expectedInLine? (chomp piece) = none := by
      refine expectedInLine?_eq_none fun hwithin => hfront ?_
      have hpiece : phrase.toList <:+: piece := hwithin.trans (chomp_prefix_self piece).isInfix
      exact hpiece.trans (List.prefix_append piece _).isInfix
    have hrest : ¬phrase.toList <:+: front := by
      refine fun hwithin => hfront (hwithin.trans ?_)
      exact (List.infix_cons List.infix_rfl).trans (List.suffix_append piece _).isInfix
    rw [List.append_assoc, List.cons_append, lines_append hpiece, List.findSome?_cons, hnone]
    exact ih hrest

/-- A sequence in decimal behind the first phrase of a message and before a comma is found, whatever
stands before and behind them. Nothing is found in a message without the phrase. What is found is named
by a line of the message. -/
theorem expected_sequence_found :
    (∀ (front back : String) (n : UInt64), ¬phrase.toList <:+: front.toList →
      expected? (front ++ phrase ++ Number.write n.toNat ++ "," ++ back) = some n) ∧
    (∀ message : String, ¬phrase.toList <:+: message.toList → expected? message = none) ∧
    ∀ (message : String) (n : UInt64), expected? message = some n →
      ∃ line ∈ lines message.toList, IsLine line message.toList ∧ Names line n := by
  refine ⟨fun front back n hfront => ?_, fun message hmessage => ?_, fun message n hfound => ?_⟩
  · have hfound := findSome?_lines hfront n back.toList
    rw [expected?]
    simpa [Number.write] using hfound
  · rw [expected?, List.findSome?_eq_none_iff]
    intro line hline
    refine expectedInLine?_eq_none fun hwithin => hmessage (hwithin.trans ?_)
    exact infix_of_isLine (isLine_of_mem_lines hline)
  · obtain ⟨before, line, after, hlines, hnames, -⟩ := expected?_eq_some.1 hfound
    have hline : line ∈ lines message.toList := by
      rw [hlines]
      exact List.mem_append_right before List.mem_cons_self
    exact ⟨line, hline, isLine_of_mem_lines hline, hnames⟩

/-- A prelude with the phrase but for its last word, on a line and again right at its end. -/
def straddledPrelude : String :=
  "account sequence mismatch,\r\nexpected, account sequence mismatch, "

/-- A message with the phrase broken over two lines. -/
def brokenMessage : String := straddledPrelude ++ "expected\n5, got 0"

/-- A message with a first phrase before no number, and a second one before a number with leading
zeros. -/
def paddedMessage : String :=
  straddledPrelude ++ "expected 5 or 6, got 0\n7\n" ++ phrase ++ "+008, got 0"

theorem straddledPrelude_found :
    (¬phrase.toList <:+: straddledPrelude.toList ∧
      expected? (straddledPrelude ++ phrase ++ Number.write (18446744073709551615 : UInt64).toNat ++
        "," ++ " got 3\r\naccount sequence mismatch, expected 9, got 0") =
          some 18446744073709551615) ∧
    (¬phrase.toList <:+: brokenMessage.toList ∧ expected? brokenMessage = none) ∧
    expected? paddedMessage = some 8 ∧
    ∃ line ∈ lines paddedMessage.toList, IsLine line paddedMessage.toList ∧ Names line 8 := by
  obtain ⟨hfound, hnone, hline⟩ := expected_sequence_found
  have hprelude : ¬phrase.toList <:+: straddledPrelude.toList := by decide +kernel
  have hbroken : ¬phrase.toList <:+: brokenMessage.toList := by decide +kernel
  have hpadded : expected? paddedMessage = some 8 := by decide +kernel
  exact ⟨⟨hprelude, hfound _ _ _ hprelude⟩, ⟨hbroken, hnone _ hbroken⟩, hpadded, hline _ _ hpadded⟩

end CosmosClient.Proofs
