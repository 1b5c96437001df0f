import Mathlib
import CosmosClient.Proofs.CoinSums
import CosmosClient.Proofs.TextSearch

/-!
# Coins in texts

A text is read as a coin exactly when it is a number in digits before a denomination. A text of coins
is cut at its commas; what is left of the pieces without the blanks around them is read coin by coin
and summed, so neither the order of the pieces nor blanks nor empty pieces matter. Coins are read back
from the text they are written as.
-/

namespace CosmosClient

namespace Denom

def Letter (c : Char) : Prop := ('a' ≤ c ∧ c ≤ 'z') ∨ ('A' ≤ c ∧ c ≤ 'Z')

def Digit (c : Char) : Prop := '0' ≤ c ∧ c ≤ '9'

/-- A letter with letters, digits and some marks behind it. -/
def Grammatical (cs : List Char) : Prop :=
  ∃ first tail, cs = first :: tail ∧ Letter first ∧
    ∀ c ∈ tail, Letter c ∨ Digit c ∨ c ∈ ['/', ':', '.', '_', '-']

end Denom

/-- A text of digits and a denomination behind them that stands for a coin. -/
def Coin.Spells (cs : List Char) (c : Coin) : Prop :=
  ∃ digits denom, cs = digits ++ denom ∧ digits ≠ [] ∧ (∀ d ∈ digits, Denom.Digit d) ∧
    Denom.Grammatical denom ∧ Nat.ofDigitChars 10 digits 0 = c.amount.toNat ∧
    c.denom = String.ofList denom

/-- The pieces of a text between commas, without the blanks around them, that are not empty. -/
def Coins.segments (cs : List Char) : List (List Char) :=
  ((cs.splitOn ',').map Text.trim).filter fun piece => piece ≠ []

def Coins.joined (pieces : List (List Char)) : List Char := [','].intercalate pieces

/-- What is left of a text without the blanks around it. -/
structure Text.Trimmed (cs inner : List Char) : Prop where
  around : ∃ front back, cs = front ++ inner ++ back ∧ (∀ c ∈ front, isBlank c) ∧
    ∀ c ∈ back, isBlank c
  first : ∀ c ∈ inner.head?, ¬isBlank c
  last : ∀ c ∈ inner.getLast?, ¬isBlank c

end CosmosClient

namespace CosmosClient.Proofs
open Coins

lemma digit_iff_toNat (c : Char) : Denom.Digit c ↔ 48 ≤ c.toNat ∧ c.toNat ≤ 57 := Iff.rfl

lemma letter_iff_toNat (c : Char) : Denom.Letter c ↔
    (97 ≤ c.toNat ∧ c.toNat ≤ 122) ∨ (65 ≤ c.toNat ∧ c.toNat ≤ 90) := Iff.rfl

lemma isDigit_iff (c : Char) : c.isDigit ↔ Denom.Digit c := by
  simp [Char.isDigit, Denom.Digit, Char.le_def]

lemma isAlpha_iff (c : Char) : c.isAlpha ↔ Denom.Letter c := by
  simp [Char.isAlpha, Char.isUpper, Char.isLower, Denom.Letter, Char.le_def, or_comm]

lemma isTail_iff (c : Char) : Denom.isTail c ↔
    Denom.Letter c ∨ Denom.Digit c ∨ c ∈ ['/', ':', '.', '_', '-'] := by
  rw [Denom.isTail, Char.isAlphanum, Bool.or_eq_true, Bool.or_eq_true, isAlpha_iff, isDigit_iff,
    or_assoc]
  simp

lemma check_isOk (cs : List Char) : Denom.check cs = .ok () ↔ Denom.Grammatical cs := by
  cases cs with
  | nil => simp [Denom.check, Denom.Grammatical]
  | cons first tail =>
    have hgrammar : Denom.Grammatical (first :: tail) ↔
        first.isAlpha ∧ ∀ c ∈ tail, Denom.isTail c := by
      simp only [Denom.Grammatical, isAlpha_iff, isTail_iff, List.cons.injEq]
      constructor
      · rintro ⟨_, _, ⟨rfl, rfl⟩, hfirst, htail⟩
        exact ⟨hfirst, htail⟩
      · rintro ⟨hfirst, htail⟩
        exact ⟨first, tail, ⟨rfl, rfl⟩, hfirst, htail⟩
    rw [hgrammar, ← List.all_eq_true, Denom.check]
    by_cases hfirst : first.isAlpha <;> by_cases htail : tail.all Denom.isTail <;>
      simp [hfirst, htail]

lemma amountRead_digits {digits : List Char} (hne : digits ≠ [])
    (hdigits : ∀ d ∈ digits, d.isDigit) (a : Amount) :
    Amount.read digits = .ok a ↔ Nat.ofDigitChars 10 digits 0 = a.toNat := by
  have hread : Number.readNat Amount.max digits = Number.readDigits Amount.max 0 digits := by
    unfold Number.readNat
    split
    · exact absurd rfl hne
    · exact absurd (hdigits '+' (by simp)) (by decide)
    · exact absurd (hdigits '+' (by simp)) (by decide)
    · rfl
  rw [Amount.read, hread, map_eq_ok]
  constructor
  · rintro ⟨n, hn, rfl⟩
    have hle := ((readDigits_ok_iff (Nat.zero_le _) digits).1 ⟨n, hn⟩).2
    have hvalue := readDigits_ofDigitChars 0 hdigits hle
    obtain rfl := Except.ok.inj (hvalue.symm.trans hn)
    exact (Nat.min_eq_left hle).symm
  · intro hvalue
    have hle : Nat.ofDigitChars 10 digits 0 ≤ Amount.max := hvalue ▸ amount_le a
    refine ⟨_, readDigits_ofDigitChars 0 hdigits hle, ?_⟩
    cases a
    simp only [Amount.clamp, Amount.mk.injEq]
    exact (Nat.min_eq_left hle).trans hvalue

lemma letter_not_digit {c : Char} (h : Denom.Letter c) : ¬c.isDigit := by
  rw [letter_iff_toNat] at h
  rw [isDigit_iff, digit_iff_toNat]
  omega

/-- The digits end where the denomination begins, since that is a letter. -/
lemma denomSplit_eq_ok {cs digits denom : List Char} :
    Denom.split Char.isDigit cs = .ok (digits, denom) ↔
      cs = digits ++ denom ∧ digits ≠ [] ∧ (∀ d ∈ digits, d.isDigit) ∧ Denom.Grammatical denom := by
  rw [Denom.split]
  constructor
  · intro h
    split at h
    next => simp at h
    next =>
      split at h
      next => simp at h
      next =>
        split at h
        next => simp at h
        next hne =>
          obtain ⟨_, hcheck, hparts⟩ := map_eq_ok.1 h
          obtain ⟨rfl, rfl⟩ := Prod.mk.inj hparts
          refine ⟨List.takeWhile_append_dropWhile.symm, by simpa using hne, ?_, ?_⟩
          · intro d hd
            exact List.mem_takeWhile_imp hd
          · exact (check_isOk _).1 hcheck
  · rintro ⟨rfl, hne, hdigits, hgrammar⟩
    have hcheck := (check_isOk denom).2 hgrammar
    obtain ⟨first, tail, rfl, hfirst, -⟩ := hgrammar
    have hstop := letter_not_digit hfirst
    have htake : (digits ++ first :: tail).takeWhile Char.isDigit = digits := by
      rw [List.takeWhile_append_of_pos hdigits, List.takeWhile_cons_of_neg hstop, List.append_nil]
    have hdrop : (digits ++ first :: tail).dropWhile Char.isDigit = first :: tail := by
      rw [List.dropWhile_append_of_pos hdigits, List.dropWhile_cons_of_neg hstop]
    simp [htake, hdrop, hcheck, hne]

lemma coinRead_iff (cs : List Char) (c : Coin) : Coin.read cs = .ok c ↔ Coin.Spells cs c := by
  rw [Coin.read, inContext, mapError_eq_ok]
  simp only [bind_eq_ok, pure_eq_ok, mapError_eq_ok, Prod.exists, denomSplit_eq_ok]
  constructor
  · rintro ⟨digits, denom, ⟨rfl, hne, hdigits, hgrammar⟩, a, ha, rfl⟩
    exact ⟨digits, denom, rfl, hne, fun d hd => (isDigit_iff d).1 (hdigits d hd), hgrammar,
      (amountRead_digits hne hdigits a).1 ha, rfl⟩
  · rintro ⟨digits, denom, rfl, hne, hdigits, hgrammar, hvalue, hdenom⟩
    have hdigits : ∀ d ∈ digits, d.isDigit := fun d hd => (isDigit_iff d).2 (hdigits d hd)
    refine ⟨digits, denom, ⟨rfl, hne, hdigits, hgrammar⟩, c.amount, ?_, ?_⟩
    · exact (amountRead_digits hne hdigits c.amount).2 hvalue
    · rw [← hdenom]

/-- Every number of 128 bits is an amount. -/
lemma exists_spells_iff (cs : List Char) : (∃ c, Coin.Spells cs c) ↔
    ∃ digits denom, cs = digits ++ denom ∧ digits ≠ [] ∧ (∀ d ∈ digits, Denom.Digit d) ∧
      Denom.Grammatical denom ∧ Nat.ofDigitChars 10 digits 0 < 2 ^ 128 := by
  constructor
  · rintro ⟨c, digits, denom, hcs, hne, hdigits, hgrammar, hvalue, -⟩
    exact ⟨digits, denom, hcs, hne, hdigits, hgrammar, hvalue ▸ c.amount.lt⟩
  · rintro ⟨digits, denom, hcs, hne, hdigits, hgrammar, hlt⟩
    exact ⟨⟨String.ofList denom, _, hlt⟩, digits, denom, hcs, hne, hdigits, hgrammar, rfl, rfl⟩

lemma trim_eq_iff {cs inner : List Char} : Text.trim cs = inner ↔ Text.Trimmed cs inner := by
  constructor
  · rintro rfl
    have hfront := List.takeWhile_append_dropWhile (p := Text.isBlank) (l := cs)
    have hback : Text.trim cs ++ (cs.dropWhile Text.isBlank).rtakeWhile Text.isBlank =
        cs.dropWhile Text.isBlank := List.rdropWhile_append_rtakeWhile
    refine ⟨⟨cs.takeWhile Text.isBlank, (cs.dropWhile Text.isBlank).rtakeWhile Text.isBlank, ?_,
      fun c hc => List.mem_takeWhile_imp hc, fun c hc => List.mem_rtakeWhile_imp hc⟩, ?_, ?_⟩
    · rw [List.append_assoc, hback, hfront]
    · intro c hc
      have hhead : (cs.dropWhile Text.isBlank).head? = some c := by
        rw [← hback, List.head?_append, Option.mem_def.1 hc]
        rfl
      have hnot := List.head?_dropWhile_not Text.isBlank cs
      rw [hhead] at hnot
      exact ne_true_of_eq_false hnot
    · intro c hc
      obtain ⟨hne, rfl⟩ := List.mem_getLast?_eq_getLast hc
      exact List.rdropWhile_last_not Text.isBlank _ hne
  · rintro ⟨⟨front, back, rfl, hfront, hback⟩, hfirst, hlast⟩
    have hback : ∀ c ∈ back.reverse, Text.isBlank c := fun c hc => hback c (List.mem_reverse.1 hc)
    rw [Text.trim, List.append_assoc, List.dropWhile_append_of_pos hfront]
    cases inner with
    | nil =>
      have hnil : back.dropWhile Text.isBlank = [] :=
        List.dropWhile_eq_nil_iff.2 fun c hc => hback c (List.mem_reverse.2 hc)
      rw [List.nil_append, hnil]
      rfl
    | cons c inner =>
      have hself : (c :: inner).reverse.dropWhile Text.isBlank = (c :: inner).reverse := by
        rw [List.dropWhile_eq_self_iff]
        intro hlength
        apply hlast
        rw [← List.head?_reverse, List.head?_eq_getElem?]
        exact List.getElem?_eq_getElem hlength
      rw [List.cons_append, List.dropWhile_cons_of_neg (hfirst c rfl), ← List.cons_append,
        Text.trimEnd, List.reverse_append, List.dropWhile_append_of_pos hback, hself,
        List.reverse_reverse]

lemma trim_padded {front piece back : List Char} (hfront : ∀ c ∈ front, Text.isBlank c)
    (hback : ∀ c ∈ back, Text.isBlank c) :
    Text.trim (front ++ piece ++ back) = Text.trim piece := by
  obtain ⟨⟨before, after, hpiece, hbefore, hafter⟩, hfirst, hlast⟩ :=
    trim_eq_iff.1 (rfl : Text.trim piece = _)
  generalize Text.trim piece = inner at *
  subst hpiece
  refine trim_eq_iff.2 ⟨⟨front ++ before, after ++ back, ?_, ?_, ?_⟩, hfirst, hlast⟩
  · simp only [List.append_assoc]
  · exact List.forall_mem_append.2 ⟨hfront, hbefore⟩
  · exact List.forall_mem_append.2 ⟨hafter, hback⟩

lemma trim_eq_nil_iff {piece : List Char} : Text.trim piece = [] ↔ ∀ c ∈ piece, Text.isBlank c := by
  rw [trim_eq_iff]
  constructor
  · rintro ⟨⟨front, back, rfl, hfront, hback⟩, -, -⟩
    rw [List.append_nil]
    exact List.forall_mem_append.2 ⟨hfront, hback⟩
  · intro hblank
    exact ⟨⟨piece, [], by simp, hblank, by simp⟩, by simp, by simp⟩

lemma segments_joined {pieces : List (List Char)} (h : ∀ piece ∈ pieces, ',' ∉ piece) :
    segments (joined pieces) = (pieces.map Text.trim).filter fun piece => piece ≠ [] := by
  by_cases hnil : pieces = []
  · subst hnil
    rfl
  · rw [segments, joined, List.splitOn_intercalate ',' h hnil]

lemma coinsRead_eq (cs : List Char) :
    Coins.read cs = ((segments cs).mapM Coin.read).map ofList := by
  rw [Coins.read, split_eq_splitOn, segments]
  simp only [List.isEmpty_iff, ne_eq]

lemma coinsRead_iff (cs : List Char) (coins : Coins) : Coins.read cs = .ok coins ↔
    ∃ l, List.Forall₂ Coin.Spells (segments cs) l ∧
      ∀ d, coins.get d = min (total l d) Amount.max := by
  rw [coinsRead_eq, map_eq_ok]
  simp only [mapM_eq_ok, coinRead_iff]
  apply exists_congr
  intro l
  apply and_congr_right
  intro _
  constructor
  · rintro rfl
    exact get_ofList l
  · intro hget
    apply ext_get
    intro d
    rw [get_ofList, hget]

lemma exists_coinsRead_iff (cs : List Char) : (∃ coins, Coins.read cs = .ok coins) ↔
    ∀ piece ∈ cs.splitOn ',', Text.trim piece ≠ [] → ∃ c, Coin.Spells (Text.trim piece) c := by
  have hmap : (∃ coins, Coins.read cs = .ok coins) ↔ ∃ l, (segments cs).mapM Coin.read = .ok l := by
    simp only [coinsRead_eq, map_eq_ok]
    constructor
    · rintro ⟨_, l, hl, -⟩
      exact ⟨l, hl⟩
    · rintro ⟨l, hl⟩
      exact ⟨_, l, hl, rfl⟩
  rw [hmap, mapM_ok_iff]
  simp only [coinRead_iff, segments, List.mem_filter, List.mem_map, decide_eq_true_eq, and_imp,
    forall_exists_index, forall_apply_eq_imp_iff₂]

lemma coinsRead_perm {cs cs' : List Char} (h : (segments cs).Perm (segments cs')) :
    (Coins.read cs).toOption = (Coins.read cs').toOption := by
  have hsame {cs cs' : List Char} (h : (segments cs').Perm (segments cs)) {coins : Coins}
      (hread : Coins.read cs = .ok coins) : Coins.read cs' = .ok coins := by
    obtain ⟨l, hl, hget⟩ := (coinsRead_iff cs coins).1 hread
    obtain ⟨l', hl', hperm⟩ := List.perm_comp_forall₂ h hl
    refine (coinsRead_iff cs' coins).2 ⟨l', hl', fun d => ?_⟩
    rw [hget, total_perm hperm]
  apply Option.ext
  intro coins
  rw [toOption_eq_some, toOption_eq_some]
  exact ⟨hsame h.symm, hsame h⟩

lemma coinsRead_reordered {pieces pieces' : List (List Char)} (h : ∀ piece ∈ pieces, ',' ∉ piece)
    (hperm : pieces.Perm pieces') :
    (Coins.read (joined pieces)).toOption = (Coins.read (joined pieces')).toOption := by
  have h' : ∀ piece ∈ pieces', ',' ∉ piece := fun piece hpiece => h piece (hperm.mem_iff.2 hpiece)
  apply coinsRead_perm
  rw [segments_joined h, segments_joined h']
  exact (hperm.map _).filter _

lemma coinsRead_padded {padded : List (List Char × List Char × List Char)}
    (h : ∀ p ∈ padded, (∀ c ∈ p.1, Text.isBlank c) ∧ ',' ∉ p.2.1 ∧ ∀ c ∈ p.2.2, Text.isBlank c) :
    Coins.read (joined (padded.map fun p => p.1 ++ p.2.1 ++ p.2.2)) =
      Coins.read (joined (padded.map fun p => p.2.1)) := by
  have hblank {cs : List Char} (hcs : ∀ c ∈ cs, Text.isBlank c) : ',' ∉ cs := fun hmem =>
    absurd (hcs ',' hmem) (by decide)
  rw [coinsRead_eq, coinsRead_eq, segments_joined, segments_joined, List.map_map, List.map_map]
  · have hsame : ∀ p ∈ padded, Text.trim (p.1 ++ p.2.1 ++ p.2.2) = Text.trim p.2.1 :=
      fun p hp => trim_padded (h p hp).1 (h p hp).2.2
    have htrimmed := List.map_congr_left hsame
    simp only [Function.comp_def, htrimmed]
  · intro piece hpiece
    obtain ⟨p, hp, rfl⟩ := List.mem_map.1 hpiece
    exact (h p hp).2.1
  · intro piece hpiece
    obtain ⟨p, hp, rfl⟩ := List.mem_map.1 hpiece
    obtain ⟨hfront, hinner, hback⟩ := h p hp
    simp [hblank hfront, hinner, hblank hback]

lemma coinsRead_unblanked {pieces : List (List Char)} (h : ∀ piece ∈ pieces, ',' ∉ piece) :
    Coins.read (joined (pieces.filter fun piece => ¬∀ c ∈ piece, Text.isBlank c)) =
      Coins.read (joined pieces) := by
  have hkept : ∀ piece ∈ pieces.filter fun piece => ¬∀ c ∈ piece, Text.isBlank c, ',' ∉ piece :=
    fun piece hpiece => h piece (List.mem_filter.1 hpiece).1
  have hsame : segments (joined (pieces.filter fun piece => ¬∀ c ∈ piece, Text.isBlank c)) =
      segments (joined pieces) := by
    rw [segments_joined hkept, segments_joined h, List.filter_map, List.filter_map,
      List.filter_filter]
    apply congrArg
    apply List.filter_congr
    intro piece _
    simp only [Function.comp_apply, ne_eq, trim_eq_nil_iff, Bool.and_self]
  rw [coinsRead_eq, coinsRead_eq, hsame]

lemma spells_write {c : Coin} (h : Denom.Grammatical c.denom.toList) :
    Coin.Spells c.write.toList c := by
  refine ⟨Number.digits c.amount.toNat, c.denom.toList, ?_, Nat.toDigits_ne_nil, ?_, h,
    Nat.ofDigitChars_ten_toDigits, String.ofList_toList.symm⟩
  · rw [Coin.write, Amount.write, Number.write, String.toList_append, String.toList_ofList]
  · intro d hd
    exact (isDigit_iff d).1 (isDigit_of_mem_digits d hd)

/-- The characters of a coin are neither blanks nor commas. -/
lemma toNat_of_spells {cs : List Char} {c : Coin} (h : Coin.Spells cs c) :
    ∀ d ∈ cs, 45 ≤ d.toNat ∧ d.toNat ≤ 122 := by
  have hdigit {d : Char} (hd : Denom.Digit d) : 45 ≤ d.toNat ∧ d.toNat ≤ 122 := by
    rw [digit_iff_toNat] at hd
    omega
  have hletter {d : Char} (hd : Denom.Letter d) : 45 ≤ d.toNat ∧ d.toNat ≤ 122 := by
    rw [letter_iff_toNat] at hd
    omega
  have hmarks : ∀ d ∈ ['/', ':', '.', '_', '-'], 45 ≤ d.toNat ∧ d.toNat ≤ 122 := by simp
  obtain ⟨digits, _, rfl, -, hdigits, ⟨first, tail, rfl, hfirst, htail⟩, -, -⟩ := h
  refine List.forall_mem_append.2 ⟨fun d hd => hdigit (hdigits d hd),
    List.forall_mem_cons.2 ⟨hletter hfirst, fun d hd => ?_⟩⟩
  rcases htail d hd with hd | hd | hd
  · exact hletter hd
  · exact hdigit hd
  · exact hmarks d hd

lemma trim_of_spells {cs : List Char} {c : Coin} (h : Coin.Spells cs c) : Text.trim cs = cs := by
  have hblank : ∀ d ∈ cs, ¬Text.isBlank d := by
    intro d hd
    obtain ⟨hlow, hhigh⟩ := toNat_of_spells h d hd
    simp only [Text.isBlank, Bool.or_eq_true, Bool.and_eq_true, decide_eq_true_eq, beq_iff_eq]
    omega
  refine trim_eq_iff.2 ⟨⟨[], [], by simp, by simp, by simp⟩, ?_, ?_⟩
  · exact fun d hd => hblank d (List.mem_of_head? hd)
  · exact fun d hd => hblank d (List.mem_of_getLast? hd)

lemma comma_of_spells {cs : List Char} {c : Coin} (h : Coin.Spells cs c) : ',' ∉ cs := by
  intro hmem
  have hlow := (toNat_of_spells h ',' hmem).1
  exact absurd hlow (by decide)

lemma ne_nil_of_spells {cs : List Char} {c : Coin} (h : Coin.Spells cs c) : cs ≠ [] := by
  obtain ⟨digits, denom, rfl, hne, -⟩ := h
  simp [hne]

lemma toList_write (coins : Coins) :
    coins.write.toList = joined (coins.toList.map fun c => c.write.toList) := by
  rw [Coins.write, Text.join, String.toList_intercalate, List.map_map]
  rfl

lemma coinsRead_write {coins : Coins} (h : ∀ c ∈ coins.toList, Denom.Grammatical c.denom.toList) :
    Coins.read coins.write.toList = .ok coins := by
  have hspells : ∀ c ∈ coins.toList, Coin.Spells c.write.toList c :=
    fun c hc => spells_write (h c hc)
  have hpieces : ∀ piece ∈ coins.toList.map fun c => c.write.toList, ∃ c, Coin.Spells piece c := by
    intro piece hpiece
    obtain ⟨c, hc, rfl⟩ := List.mem_map.1 hpiece
    exact ⟨c, hspells c hc⟩
  have hsegments : segments coins.write.toList = coins.toList.map fun c => c.write.toList := by
    rw [toList_write, segments_joined, map_eq_self, List.filter_eq_self]
    · intro piece hpiece
      obtain ⟨c, hc⟩ := hpieces piece hpiece
      exact decide_eq_true (ne_nil_of_spells hc)
    · intro piece hpiece
      obtain ⟨c, hc⟩ := hpieces piece hpiece
      exact trim_of_spells hc
    · intro piece hpiece
      obtain ⟨c, hc⟩ := hpieces piece hpiece
      exact comma_of_spells hc
  rw [coinsRead_eq, hsegments, mapM_map_ok fun c hc => (coinRead_iff _ c).2 (hspells c hc), map_ok,
    ofList_toList]

/-- A text is read as a coin exactly when it is digits, for a number of 128 bits, before a
denomination. Coins are read exactly when every piece between commas that is not blank is a coin, and
they are the sum of these coins; so the order of the pieces, blanks around them and blank pieces do not
matter. Coins whose denominations follow the grammar are read back from the text they are written
as. -/
theorem coin_texts :
    (∀ cs c, Coin.read cs = .ok c ↔ Coin.Spells cs c) ∧
    (∀ cs, (∃ c, Coin.read cs = .ok c) ↔ ∃ digits denom, cs = digits ++ denom ∧ digits ≠ [] ∧
      (∀ d ∈ digits, Denom.Digit d) ∧ Denom.Grammatical denom ∧
      Nat.ofDigitChars 10 digits 0 < 2 ^ 128) ∧
    (∀ cs, (∃ coins, Coins.read cs = .ok coins) ↔
      ∀ piece ∈ cs.splitOn ',', Text.trim piece ≠ [] → ∃ c, Coin.Spells (Text.trim piece) c) ∧
    (∀ cs coins, Coins.read cs = .ok coins ↔ ∃ l, List.Forall₂ Coin.Spells (segments cs) l ∧
      ∀ d, coins.get d = min (total l d) Amount.max) ∧
    (∀ pieces pieces', (∀ piece ∈ pieces, ',' ∉ piece) → pieces.Perm pieces' →
      (Coins.read (joined pieces)).toOption = (Coins.read (joined pieces')).toOption) ∧
    (∀ padded : List (List Char × List Char × List Char),
      (∀ p ∈ padded, (∀ c ∈ p.1, Text.isBlank c) ∧ ',' ∉ p.2.1 ∧ ∀ c ∈ p.2.2, Text.isBlank c) →
      Coins.read (joined (padded.map fun p => p.1 ++ p.2.1 ++ p.2.2)) =
        Coins.read (joined (padded.map fun p => p.2.1))) ∧
    (∀ pieces, (∀ piece ∈ pieces, ',' ∉ piece) →
      Coins.read (joined (pieces.filter fun piece => ¬∀ c ∈ piece, Text.isBlank c)) =
        Coins.read (joined pieces)) ∧
    ∀ coins : Coins, (∀ c ∈ coins.toList, Denom.Grammatical c.denom.toList) →
      Coins.read coins.write.toList = .ok coins := by
  refine ⟨coinRead_iff, ?_, exists_coinsRead_iff, coinsRead_iff, fun _ _ => coinsRead_reordered,
    fun _ => coinsRead_padded, fun _ => coinsRead_unblanked, fun _ => coinsRead_write⟩
  intro cs
  rw [← exists_spells_iff]
  simp only [coinRead_iff]

/-- Coins in no order, one of them twice, one of a zero amount and a piece of blanks. -/
def untidyPieces : List (List Char) :=
  ["5uluna".toList, "10uatom".toList, " ".toList, "0ustake".toList, "003uatom".toList]

theorem untidyPieces_read :
    (Coins.read (joined untidyPieces)).toOption = (Coins.read (joined untidyPieces.reverse)).toOption ∧
    Coins.read (joined (untidyPieces.map fun piece => ['\t'] ++ piece ++ ['\u3000', ' '])) =
      Coins.read (joined untidyPieces) ∧
    Coins.read (joined (untidyPieces.filter fun piece => ¬∀ c ∈ piece, Text.isBlank c)) =
      Coins.read (joined untidyPieces) ∧
    ∃ coins, Coins.read (joined untidyPieces) = .ok coins ∧ coins.write = "13uatom,5uluna" ∧
      Coins.read coins.write.toList = .ok coins := by
  obtain ⟨-, -, -, -, hreordered, hpadded, hunblanked, hback⟩ := coin_texts
  have hcommas : ∀ piece ∈ untidyPieces, ',' ∉ piece := by decide
  have hread : (Coins.read (joined untidyPieces)).toOption =
      some (ofList [⟨"uatom", .clamp 13⟩, ⟨"uluna", .clamp 5⟩]) := by decide +kernel
  refine ⟨hreordered _ _ hcommas (List.reverse_perm _).symm, ?_, hunblanked _ hcommas,
    _, toOption_eq_some.1 hread, by decide +kernel, hback _ ?_⟩
  · have hsame := hpadded (untidyPieces.map fun piece => (['\t'], piece, ['\u3000', ' '])) ?_
    · simpa only [List.map_map, Function.comp_def, List.map_id'] using hsame
    · intro p hp
      obtain ⟨piece, hpiece, rfl⟩ := List.mem_map.1 hp
      exact ⟨by simp [Text.isBlank], hcommas piece hpiece, by simp [Text.isBlank]⟩
  · have hlist : (ofList [⟨"uatom", .clamp 13⟩, ⟨"uluna", .clamp 5⟩]).toList =
        [⟨"uatom", .clamp 13⟩, ⟨"uluna", .clamp 5⟩] := by decide +kernel
    rw [hlist]
    refine List.forall_mem_cons.2 ⟨?_, List.forall_mem_singleton.2 ?_⟩
    · exact (check_isOk _).1 rfl
    · exact (check_isOk _).1 rfl

end CosmosClient.Proofs
