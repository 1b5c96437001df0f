import Mathlib
import CosmosClient.Proofs.DocumentDepth
import CosmosClient.SignDoc

/-!
# Text read back

A document of strings in arrays and objects is read back from its text: each character from its escape
sequence, and each array and object by a reader with fuel for twice the length of the text. That holds
of the text as it is printed and of the text that is signed, in which characters that HTML reserves
are escaped as well.
-/

namespace CosmosClient

/-- Whether a document holds strings alone, in arrays and objects. -/
inductive Json.Textual : Json → Prop
  | str (s : String) : Textual (.str s)
  | arr {items : List Json} (h : ∀ j ∈ items, Textual j) : Textual (.arr items)
  | obj {fields : List (String × Json)} (h : ∀ f ∈ fields, Textual f.2) : Textual (.obj fields)

/-- How the characters of a text are written: a reader takes them for the same inside a string, and
the marks outside of strings stay what they are. -/
structure Json.Spelling where
  escape : Char → List Char
  mark : ∀ c ∈ ['"', '[', ']', '{', '}', ',', ':'], escape c = [c]
  chars : ∀ (c : Char) (cs : List Char),
    Json.chars none ((Json.escape c).flatMap escape ++ cs) = (Json.chars none cs).cons c

namespace Json.Spelling

variable (w : Spelling)

/-- The text of a document. -/
def spell (j : Json) : List Char :=
  (Json.compactChars j).flatMap w.escape

/-- A string up to and with its closing quote. -/
def letters (s : String) : List Char :=
  (s.toList.flatMap fun c => (Json.escape c).flatMap w.escape) ++ ['"']

/-- Items after the first one, each behind its comma. -/
def moreItems (items : List Json) : List Char :=
  items.flatMap fun j => ',' :: w.spell j

/-- A field after the quote that opens its key. -/
def spellField (f : String × Json) : List Char :=
  w.letters f.1 ++ ':' :: w.spell f.2

/-- Fields after the first one, each behind its comma. -/
def moreFields (fields : List (String × Json)) : List Char :=
  fields.flatMap fun f => ',' :: '"' :: w.spellField f

end Json.Spelling
end CosmosClient

namespace CosmosClient.Proofs
open Json Spelling

lemma hexValue?_digitChar : ∀ n < 16, hexValue? (Nat.digitChar n) = some n := by
  decide

lemma hex4?_control {n : Nat} (h : n < 0x20) :
    hex4? '0' '0' (Nat.digitChar (n / 16)) (Nat.digitChar (n % 16)) = some n := by
  have hzero : hexValue? '0' = some 0 := by decide
  have hhigh := hexValue?_digitChar (n / 16) (by omega)
  have hlow := hexValue?_digitChar (n % 16) (by omega)
  simp only [hex4?, hzero, hhigh, hlow, bind, Option.bind, pure, Option.some.injEq]
  omega

lemma chars_plain {c : Char} (hquote : c ≠ '"') (hslash : c ≠ '\\') (hcontrol : ¬c.toNat < 0x20)
    (cs : List Char) : Json.chars none (c :: cs) = (Json.chars none cs).cons c := by
  rw [Json.chars.eq_def]
  split <;> simp_all

lemma chars_escaped {e c : Char} (h : unescape? e = some c) (cs : List Char) :
    Json.chars none ('\\' :: e :: cs) = (Json.chars none cs).cons c := by
  have hu : e ≠ 'u' := by
    rintro rfl
    simp [unescape?] at h
  simp [Json.chars, h, hu]

lemma chars_unicode {p q r s : Char} {n : Nat} (h : hex4? p q r s = some n) (hn : n < 0xD800)
    (cs : List Char) :
    Json.chars none ('\\' :: 'u' :: p :: q :: r :: s :: cs) =
      (Json.chars none cs).cons (Char.ofNat n) := by
  have hhigh : ¬(0xD800 ≤ n ∧ n ≤ 0xDBFF) := by omega
  have hlow : ¬(0xDC00 ≤ n ∧ n ≤ 0xDFFF) := by omega
  rw [Json.chars.eq_def]
  simp only [h, if_neg hhigh, if_neg hlow]

/-- A character stands for itself, or behind a backslash with a letter or with its number. -/
lemma escape_cases (c : Char) :
    (Json.escape c = [c] ∧ c ≠ '"' ∧ c ≠ '\\' ∧ ¬c.toNat < 0x20) ∨
      (∃ e, Json.escape c = ['\\', e] ∧ unescape? e = some c) ∨
      ∃ h < 16, ∃ l < 16, Json.escape c = ['\\', 'u', '0', '0', Nat.digitChar h, Nat.digitChar l] ∧
        hex4? '0' '0' (Nat.digitChar h) (Nat.digitChar l) = some c.toNat ∧ c.toNat < 0xD800 := by
  -- seven characters have a letter behind the backslash
  by_cases hletter : c ∈ ['"', '\\', '\x08', '\x0c', '\n', '\r', '\t']
  · simp only [List.mem_cons, List.not_mem_nil, or_false] at hletter
    rcases hletter with rfl | rfl | rfl | rfl | rfl | rfl | rfl <;>
      exact .inr (.inl ⟨_, rfl, rfl⟩)
  · simp only [List.mem_cons, List.not_mem_nil, or_false, not_or] at hletter
    obtain ⟨hquote, hslash, hb, hf, hn, hr, ht⟩ := hletter
    rw [Json.escape, if_neg hquote, if_neg hslash, if_neg hb, if_neg hf, if_neg hn, if_neg hr,
      if_neg ht]
    by_cases hcontrol : c.toNat < 0x20
    · rw [if_pos hcontrol]
      exact .inr (.inr ⟨_, by omega, _, by omega, rfl, hex4?_control hcontrol, by omega⟩)
    · rw [if_neg hcontrol]
      exact .inl ⟨rfl, hquote, hslash, hcontrol⟩

/-- A character is read back from what it is printed as. -/
lemma chars_escape (c : Char) (cs : List Char) :
    Json.chars none (Json.escape c ++ cs) = (Json.chars none cs).cons c := by
  rcases escape_cases c with ⟨hc, hquote, hslash, hcontrol⟩ | ⟨e, hc, he⟩ | ⟨h, -, l, -, hc, hn, hlt⟩
  · rw [hc]
    exact chars_plain hquote hslash hcontrol cs
  · rw [hc]
    exact chars_escaped he cs
  · rw [hc]
    exact (chars_unicode hn hlt cs).trans (by rw [Char.ofNat_toNat])

/-- The text as it is printed. -/
def plain : Spelling where
  escape c := [c]
  mark _ _ := rfl
  chars c cs := by
    rw [List.flatMap_singleton', chars_escape]

lemma spell_plain (j : Json) : plain.spell j = compactChars j :=
  List.flatMap_singleton' _

lemma escape_kept {c : Char} (hc : ¬(c = '&' ∨ c = '<' ∨ c = '>')) :
    LegacySignDoc.escape c = [c] := by
  obtain ⟨hand, hless, hmore⟩ := by simpa only [not_or] using hc
  rw [LegacySignDoc.escape, if_neg hand, if_neg hless, if_neg hmore]

/-- Only characters that stand for themselves are reserved. -/
lemma escape_unreserved {c : Char} (hc : ¬(c = '&' ∨ c = '<' ∨ c = '>')) :
    (Json.escape c).flatMap LegacySignDoc.escape = Json.escape c := by
  have hslash : LegacySignDoc.escape '\\' = ['\\'] := rfl
  rcases escape_cases c with ⟨h, -⟩ | ⟨e, h, he⟩ | ⟨high, hhigh, low, hlow, h, -⟩
  · rw [h, List.flatMap_singleton, escape_kept hc]
  · have hletter : LegacySignDoc.escape e = [e] := by
      apply escape_kept
      rintro (rfl | rfl | rfl) <;> exact absurd he (by simp [unescape?])
    simp only [h, List.flatMap_cons, List.flatMap_nil, hslash, hletter]
    rfl
  · have hdigit : ∀ n < 16, LegacySignDoc.escape (Nat.digitChar n) = [Nat.digitChar n] := by
      decide
    simp only [h, List.flatMap_cons, List.flatMap_nil, hslash, hdigit high hhigh, hdigit low hlow]
    rfl

/-- The text as it is signed. -/
def signed : Spelling where
  escape := LegacySignDoc.escape
  mark c hc := by
    have hmarks : ∀ c ∈ ['"', '[', ']', '{', '}', ',', ':'], ¬(c = '&' ∨ c = '<' ∨ c = '>') := by
      simp
    exact escape_kept (hmarks c hc)
  chars c cs := by
    by_cases hreserved : c = '&' ∨ c = '<' ∨ c = '>'
    · have hcode (r s : Char) (hc : (Json.escape c).flatMap LegacySignDoc.escape =
            ['\\', 'u', '0', '0', r, s]) (hn : hex4? '0' '0' r s = some c.toNat)
          (hlt : c.toNat < 0xD800) :
          Json.chars none ((Json.escape c).flatMap LegacySignDoc.escape ++ cs) =
            (Json.chars none cs).cons c := by
        rw [hc]
        exact (chars_unicode hn hlt cs).trans (by rw [Char.ofNat_toNat])
      rcases hreserved with rfl | rfl | rfl <;> exact hcode _ _ rfl (by decide) (by decide)
    · rw [escape_unreserved hreserved, chars_escape]

variable (w : Spelling)

lemma chars_letters (cs rest : List Char) :
    Json.chars none ((cs.flatMap fun c => (Json.escape c).flatMap w.escape) ++ '"' :: rest) =
      ⟨cs, true, .ok rest⟩ := by
  induction cs with
  | nil => rfl
  | cons c cs ih =>
    rw [List.flatMap_cons, List.append_assoc, w.chars, ih]
    rfl

lemma string_letters (s : String) (rest : List Char) :
    Json.string (w.letters s ++ rest) = (.str s, some rest) := by
  have h := chars_letters w s.toList rest
  simp only [Json.string, letters, List.append_assoc, List.singleton_append, h,
    String.ofList_toList]

lemma spell_str (s : String) : w.spell (.str s) = '"' :: w.letters s := by
  have hquote : w.escape '"' = ['"'] := w.mark _ (by decide)
  simp only [spell, compactChars, scalarChars, quote, List.cons_append, List.flatMap_cons,
    List.flatMap_append, List.flatMap_nil, hquote, List.flatMap_assoc]
  rfl

lemma spell_arr (items : List Json) :
    w.spell (.arr items) = '[' :: (compactItems items).flatMap w.escape ++ [']'] := by
  have hopen : w.escape '[' = ['['] := w.mark _ (by decide)
  have hclose : w.escape ']' = [']'] := w.mark _ (by decide)
  simp [spell, compactChars, hopen, hclose]

lemma spell_obj (fields : List (String × Json)) :
    w.spell (.obj fields) = '{' :: (compactFields fields).flatMap w.escape ++ ['}'] := by
  have hopen : w.escape '{' = ['{'] := w.mark _ (by decide)
  have hclose : w.escape '}' = ['}'] := w.mark _ (by decide)
  simp [spell, compactChars, hopen, hclose]

lemma spell_items (j : Json) (items : List Json) :
    (compactItems (j :: items)).flatMap w.escape = w.spell j ++ w.moreItems items := by
  have hcomma : w.escape ',' = [','] := w.mark _ (by decide)
  induction items generalizing j with
  | nil => simp [compactItems, spell, moreItems]
  | cons k items ih =>
    have hitems : compactItems (j :: k :: items) =
        compactChars j ++ ',' :: compactItems (k :: items) := rfl
    rw [hitems, List.flatMap_append, List.flatMap_cons, ih k]
    simp [moreItems, spell, hcomma]

lemma spell_fields (f : String × Json) (fields : List (String × Json)) :
    (compactFields (f :: fields)).flatMap w.escape =
      '"' :: w.spellField f ++ w.moreFields fields := by
  have hcomma : w.escape ',' = [','] := w.mark _ (by decide)
  have hcolon : w.escape ':' = [':'] := w.mark _ (by decide)
  have hquote (s : String) : (quote s).flatMap w.escape = '"' :: w.letters s :=
    spell_str w s
  induction fields generalizing f with
  | nil => simp [compactFields, spell, spellField, moreFields, hquote, hcolon]
  | cons g fields ih =>
    obtain ⟨key, j⟩ := f
    have hfields : compactFields ((key, j) :: g :: fields) =
        quote key ++ ':' :: compactChars j ++ ',' :: compactFields (g :: fields) := rfl
    rw [hfields, List.flatMap_append, List.flatMap_append, List.flatMap_cons, List.flatMap_cons,
      ih g, hquote, hcolon, hcomma]
    simp [spellField, moreFields, spell]

/-- The text starts with a quote or with an opening bracket. -/
lemma spell_head {j : Json} (hj : j.Textual) :
    ∃ c cs, w.spell j = c :: cs ∧ (c = '"' ∨ c = '[' ∨ c = '{') := by
  cases hj with
  | str s => exact ⟨_, _, spell_str w s, .inl rfl⟩
  | arr h => exact ⟨_, _, spell_arr w _, .inr (.inl rfl)⟩
  | obj h => exact ⟨_, _, spell_obj w _, .inr (.inr rfl)⟩

/-! ### Reading documents -/

lemma value_str (fuel depth : Nat) (cs : List Char) :
    value (fuel + 1) depth ('"' :: cs) = Json.string cs := by
  rfl

lemma value_arr (fuel depth : Nat) (cs : List Char) :
    value (fuel + 1) depth ('[' :: cs) =
      enclose depth (.arr (items fuel (depth - 1) true cs).1) (items fuel (depth - 1) true cs).2 := by
  rfl

lemma value_obj (fuel depth : Nat) (cs : List Char) :
    value (fuel + 1) depth ('{' :: cs) =
      enclose depth (.obj (fields fuel (depth - 1) true cs).1)
        (fields fuel (depth - 1) true cs).2 := by
  rfl

/-- An item and what is read after it, when a value is what the reader is to meet next. -/
lemma items_value {fuel depth : Nat} {c : Char} (hc : c = '"' ∨ c = '[' ∨ c = '{')
    (cs : List Char) {j : Json} {rest : List Char}
    (hread : value fuel depth (c :: cs) = (j, some rest)) :
    items (fuel + 1) depth true (c :: cs) =
        (j :: (items fuel depth false rest).1, (items fuel depth false rest).2) ∧
      items (fuel + 1) depth false (',' :: c :: cs) =
        (j :: (items fuel depth false rest).1, (items fuel depth false rest).2) := by
  rcases hc with rfl | rfl | rfl <;> simp [items, skipSpace, isSpace, hread]

lemma fields_value {fuel depth : Nat} {cs : List Char} {key : String} {found : List Char}
    (hkey : Json.string cs = (.str key, some (':' :: found))) {j : Json} {rest : List Char}
    (hread : value fuel depth found = (j, some rest)) :
    fields (fuel + 1) depth true ('"' :: cs) =
        ((key, j) :: (fields fuel depth false rest).1, (fields fuel depth false rest).2) ∧
      fields (fuel + 1) depth false (',' :: '"' :: cs) =
        ((key, j) :: (fields fuel depth false rest).1, (fields fuel depth false rest).2) := by
  have hsame : fields (fuel + 1) depth true ('"' :: cs) =
      fields (fuel + 1) depth false (',' :: '"' :: cs) := rfl
  have hcolon : skipSpace (':' :: found) = ':' :: found := rfl
  have hquote : skipSpace ('"' :: cs) = '"' :: cs := rfl
  rw [← hsame]
  simp [fields, hquote, hkey, hcolon, hread]

/-- A reader reads a document back from its text, whatever follows the text. -/
def Respelled (depth : Nat) (j : Json) : Prop :=
  ∀ (fuel : Nat) (rest : List Char), 2 * (w.spell j).length ≤ fuel + 1 →
    value fuel depth (w.spell j ++ rest) = (j, some rest)

lemma items_more {depth : Nat} {js : List Json} (hjs : ∀ j ∈ js, j.Textual)
    (hread : ∀ j ∈ js, Respelled w depth j) (fuel : Nat) (rest : List Char)
    (hfuel : 2 * (w.moreItems js).length + 1 ≤ fuel) :
    items fuel depth false (w.moreItems js ++ ']' :: rest) = (js, some rest) := by
  induction js generalizing fuel with
  | nil =>
    obtain ⟨fuel, rfl⟩ := Nat.exists_eq_add_one.mpr (Nat.zero_lt_of_lt hfuel)
    rfl
  | cons j js ih =>
    obtain ⟨fuel, rfl⟩ := Nat.exists_eq_add_one.mpr (Nat.zero_lt_of_lt hfuel)
    obtain ⟨hj, hjs⟩ := List.forall_mem_cons.1 hjs
    obtain ⟨hreadj, hreadjs⟩ := List.forall_mem_cons.1 hread
    have hmore : w.moreItems (j :: js) = ',' :: w.spell j ++ w.moreItems js := rfl
    rw [hmore] at hfuel ⊢
    simp only [List.length_append, List.length_cons] at hfuel
    have hvalue := hreadj fuel (w.moreItems js ++ ']' :: rest) (by omega)
    obtain ⟨c, cs, hspell, hc⟩ := spell_head w hj
    rw [hspell] at hvalue ⊢
    rw [List.append_assoc]
    refine (items_value hc _ hvalue).2.trans ?_
    rw [ih hjs hreadjs fuel (by omega)]

lemma fields_more {depth : Nat} {fs : List (String × Json)}
    (hread : ∀ f ∈ fs, Respelled w depth f.2) (fuel : Nat) (rest : List Char)
    (hfuel : 2 * (w.moreFields fs).length + 1 ≤ fuel) :
    fields fuel depth false (w.moreFields fs ++ '}' :: rest) = (fs, some rest) := by
  induction fs generalizing fuel with
  | nil =>
    obtain ⟨fuel, rfl⟩ := Nat.exists_eq_add_one.mpr (Nat.zero_lt_of_lt hfuel)
    rfl
  | cons f fs ih =>
    obtain ⟨fuel, rfl⟩ := Nat.exists_eq_add_one.mpr (Nat.zero_lt_of_lt hfuel)
    obtain ⟨hreadf, hreadfs⟩ := List.forall_mem_cons.1 hread
    have hmore : w.moreFields (f :: fs) = ',' :: '"' :: w.spellField f ++ w.moreFields fs := rfl
    rw [hmore] at hfuel ⊢
    simp only [List.length_append, List.length_cons, spellField] at hfuel
    have hvalue := hreadf fuel (w.moreFields fs ++ '}' :: rest) (by omega)
    have hkey := string_letters w f.1 (':' :: (w.spell f.2 ++ (w.moreFields fs ++ '}' :: rest)))
    simp only [spellField, List.cons_append, List.append_assoc]
    refine (fields_value hkey hvalue).2.trans ?_
    rw [ih hreadfs fuel (by omega)]

lemma items_spell {depth : Nat} {js : List Json} (hjs : ∀ j ∈ js, j.Textual)
    (hread : ∀ j ∈ js, Respelled w depth j) (fuel : Nat) (rest : List Char)
    (hfuel : 2 * ((compactItems js).flatMap w.escape).length + 1 ≤ fuel) :
    items fuel depth true ((compactItems js).flatMap w.escape ++ ']' :: rest) =
      (js, some rest) := by
  obtain ⟨fuel, rfl⟩ := Nat.exists_eq_add_one.mpr (Nat.zero_lt_of_lt hfuel)
  cases js with
  | nil => rfl
  | cons j js =>
    obtain ⟨hj, hjs⟩ := List.forall_mem_cons.1 hjs
    obtain ⟨hreadj, hreadjs⟩ := List.forall_mem_cons.1 hread
    rw [spell_items] at hfuel ⊢
    rw [List.length_append] at hfuel
    obtain ⟨c, cs, hspell, hc⟩ := spell_head w hj
    have hpos : 0 < (w.spell j).length := by
      rw [hspell]
      exact Nat.succ_pos _
    have hvalue := hreadj fuel (w.moreItems js ++ ']' :: rest) (by omega)
    rw [hspell] at hvalue ⊢
    rw [List.append_assoc]
    refine (items_value hc _ hvalue).1.trans ?_
    rw [items_more w hjs hreadjs fuel rest (by omega)]

lemma fields_spell {depth : Nat} {fs : List (String × Json)}
    (hread : ∀ f ∈ fs, Respelled w depth f.2) (fuel : Nat) (rest : List Char)
    (hfuel : 2 * ((compactFields fs).flatMap w.escape).length + 1 ≤ fuel) :
    fields fuel depth true ((compactFields fs).flatMap w.escape ++ '}' :: rest) =
      (fs, some rest) := by
  obtain ⟨fuel, rfl⟩ := Nat.exists_eq_add_one.mpr (Nat.zero_lt_of_lt hfuel)
  cases fs with
  | nil => rfl
  | cons f fs =>
    obtain ⟨hreadf, hreadfs⟩ := List.forall_mem_cons.1 hread
    rw [spell_fields] at hfuel ⊢
    simp only [List.length_append, List.length_cons, spellField] at hfuel
    have hvalue := hreadf fuel (w.moreFields fs ++ '}' :: rest) (by omega)
    have hkey := string_letters w f.1 (':' :: (w.spell f.2 ++ (w.moreFields fs ++ '}' :: rest)))
    simp only [spellField, List.cons_append, List.append_assoc]
    refine (fields_value hkey hvalue).1.trans ?_
    rw [fields_more w hreadfs fuel rest (by omega)]

/-- The induction is on the document; what lies in it is read with one level less of room. -/
lemma respelled {j : Json} (hj : j.Textual) {depth : Nat} (hdepth : j.depth ≤ depth) :
    Respelled w depth j := by
  induction hj generalizing depth with
  | str s =>
    intro fuel rest hfuel
    rw [spell_str] at hfuel ⊢
    obtain ⟨fuel, rfl⟩ : ∃ n, fuel = n + 1 := ⟨fuel - 1, by simp at hfuel; omega⟩
    rw [List.cons_append, value_str, string_letters]
  | @arr items hitems ih =>
    intro fuel rest hfuel
    rw [Json.depth] at hdepth
    have hread : ∀ j ∈ items, Respelled w (depth - 1) j := fun j hj =>
      ih j hj (by have := depth_le_depthItems hj; omega)
    rw [spell_arr] at hfuel ⊢
    simp only [List.cons_append, List.length_cons, List.length_append, List.length_nil] at hfuel
    obtain ⟨fuel, rfl⟩ : ∃ n, fuel = n + 1 := ⟨fuel - 1, by omega⟩
    have hspell := items_spell w hitems hread fuel rest (by omega)
    rw [List.cons_append, List.cons_append, List.append_assoc, List.singleton_append, value_arr,
      hspell, enclose, if_neg (by omega)]
  | @obj fields hfields ih =>
    intro fuel rest hfuel
    rw [Json.depth] at hdepth
    have hread : ∀ f ∈ fields, Respelled w (depth - 1) f.2 := fun f hf =>
      ih f hf (by have := depth_le_depthFields hf; omega)
    rw [spell_obj] at hfuel ⊢
    simp only [List.cons_append, List.length_cons, List.length_append, List.length_nil] at hfuel
    obtain ⟨fuel, rfl⟩ : ∃ n, fuel = n + 1 := ⟨fuel - 1, by omega⟩
    have hspell := fields_spell w hread fuel rest (by omega)
    rw [List.cons_append, List.cons_append, List.append_assoc, List.singleton_append, value_obj,
      hspell, enclose, if_neg (by omega)]

/-- Documents that are spelled alike are the same. -/
lemma spell_inj {j k : Json} (hj : j.Textual) (hk : k.Textual) (h : w.spell j = w.spell k) :
    j = k := by
  have hreadj := respelled w hj (le_max_left j.depth k.depth) (2 * (w.spell k).length) []
    (by rw [h]; omega)
  have hreadk := respelled w hk (le_max_right j.depth k.depth) (2 * (w.spell k).length) [] (by omega)
  rw [h, hreadk] at hreadj
  exact (Prod.mk.inj hreadj).1.symm

/-- A text that is printed for a document is decoded as the document. -/
lemma decodeText_compact {α : Type} {decode : Decoder α} {j : Json} {a : α} (hj : j.Textual)
    (hdepth : j.depth ≤ maxDepth) (h : decode j = .ok a) : decodeText decode (compact j) = .ok a := by
  have hread : Json.read (compact j) = (j, some []) := by
    have hvalue := respelled plain hj hdepth (2 * (plain.spell j).length + 2) [] (by omega)
    rw [spell_plain, List.append_nil] at hvalue
    simpa only [Json.read, compact, String.toList_ofList] using hvalue
  simp only [decodeText, hread, h, settle, mapError_ok, ok_bind]
  rfl

end CosmosClient.Proofs
