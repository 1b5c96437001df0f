import Mathlib
import CosmosClient.Proofs.LossyText
import CosmosClient.Proofs.Results
import CosmosClient.Proofs.TextSearch
import CosmosClient.Text.Bech32

/-!
# Texts in Bech32

A text is read as what its lower case spells: a prefix, the separator, groups and a checksum. Besides,
its letters have one case, so it is that lower case itself or the same in upper case.
-/

namespace CosmosClient

/-- Lower case letters of the ASCII range in upper case. -/
def Text.upper (cs : List Char) : List Char := cs.map Char.toUpper

/-- Whether a text has letters of one case at most. -/
def Text.OneCase (cs : List Char) : Prop :=
  (∀ c ∈ cs, c.isUpper = false) ∨ ∀ c ∈ cs, c.isLower = false

/-- The prefixes that Bech32 allows, in bytes: 1 to 83 of them, all visible in ASCII, and not letters of
both cases. -/
structure Bech32.ValidPrefix (hrp : List Char) : Prop where
  size : 1 ≤ (Utf8.encode (String.ofList hrp)).length ∧ (Utf8.encode (String.ofList hrp)).length ≤ 83
  visible : ∀ b ∈ Utf8.encode (String.ofList hrp), 33 ≤ b.toNat ∧ b.toNat ≤ 126
  oneCase : (∀ b ∈ Utf8.encode (String.ofList hrp), ¬(65 ≤ b.toNat ∧ b.toNat ≤ 90)) ∨
    ∀ b ∈ Utf8.encode (String.ofList hrp), ¬(97 ≤ b.toNat ∧ b.toNat ≤ 122)

end CosmosClient

namespace CosmosClient.Proofs
open Bech32

lemma isUpper_iff (c : Char) : c.isUpper = true ↔ 65 ≤ c.toNat ∧ c.toNat ≤ 90 := by
  simp [Char.isUpper, UInt32.le_iff_toNat_le]

lemma isLower_iff (c : Char) : c.isLower = true ↔ 97 ≤ c.toNat ∧ c.toNat ≤ 122 := by
  simp [Char.isLower, UInt32.le_iff_toNat_le]

lemma isUpper_eq_false_iff (c : Char) : c.isUpper = false ↔ ¬(65 ≤ c.toNat ∧ c.toNat ≤ 90) := by
  rw [← isUpper_iff, Bool.not_eq_true]

lemma isLower_eq_false_iff (c : Char) : c.isLower = false ↔ ¬(97 ≤ c.toNat ∧ c.toNat ≤ 122) := by
  rw [← isLower_iff, Bool.not_eq_true]

lemma toNat_toLower (c : Char) :
    c.toLower.toNat = if 65 ≤ c.toNat ∧ c.toNat ≤ 90 then c.toNat + 32 else c.toNat := by
  by_cases hc : c.isUpper
  · have hrange : c.val ≥ 'A'.val ∧ c.val ≤ 'Z'.val := by simpa [Char.isUpper] using hc
    have hnat := (isUpper_iff c).1 hc
    rw [if_pos hnat, Char.toLower, dif_pos hrange, ← Char.toNat_val, UInt32.toNat_add]
    exact Nat.mod_eq_of_lt (Nat.lt_of_le_of_lt (Nat.add_le_add_right hnat.2 32) (by decide))
  · have hrange : ¬(c.val ≥ 'A'.val ∧ c.val ≤ 'Z'.val) := by simpa [Char.isUpper] using hc
    rw [if_neg (mt (isUpper_iff c).2 hc), Char.toLower, dif_neg hrange]

lemma toNat_toUpper (c : Char) :
    c.toUpper.toNat = if 97 ≤ c.toNat ∧ c.toNat ≤ 122 then c.toNat - 32 else c.toNat := by
  by_cases hc : c.isLower
  · have hrange : 'a'.val ≤ c.val ∧ c.val ≤ 'z'.val := by simpa [Char.isLower] using hc
    have hnat := (isLower_iff c).1 hc
    have hstep : ('A'.val - 'a'.val).toNat = 2 ^ 32 - 32 := rfl
    rw [if_pos hnat, Char.toUpper, dif_pos hrange, ← Char.toNat_val, UInt32.toNat_add, hstep,
      Char.toNat_val]
    omega
  · have hrange : ¬('a'.val ≤ c.val ∧ c.val ≤ 'z'.val) := by simpa [Char.isLower] using hc
    rw [if_neg (mt (isLower_iff c).2 hc), Char.toUpper, dif_neg hrange]

lemma toLower_eq_self_iff (c : Char) : c.toLower = c ↔ c.isUpper = false := by
  rw [← Char.toNat_inj, toNat_toLower, isUpper_eq_false_iff]
  split <;> omega

lemma isUpper_toLower (c : Char) : c.toLower.isUpper = false := by
  rw [isUpper_eq_false_iff, toNat_toLower]
  split <;> omega

lemma isLower_toUpper (c : Char) : c.toUpper.isLower = false := by
  rw [isLower_eq_false_iff, toNat_toUpper]
  split <;> omega

lemma toUpper_toLower {c : Char} (h : c.isLower = false) : c.toLower.toUpper = c := by
  rw [isLower_eq_false_iff] at h
  rw [← Char.toNat_inj, toNat_toUpper, toNat_toLower]
  split_ifs <;> omega

lemma toLower_toUpper {c : Char} (h : c.isUpper = false) : c.toUpper.toLower = c := by
  rw [isUpper_eq_false_iff] at h
  rw [← Char.toNat_inj, toNat_toLower, toNat_toUpper]
  split_ifs <;> omega

lemma visible_toLower (c : Char) :
    (33 ≤ c.toLower.toNat ∧ c.toLower.toNat ≤ 126) ↔ 33 ≤ c.toNat ∧ c.toNat ≤ 126 := by
  rw [toNat_toLower]
  split <;> omega

lemma toLower_eq_separator (c : Char) : c.toLower = '1' ↔ c = '1' := by
  rw [← Char.toNat_inj, ← Char.toNat_inj, toNat_toLower]
  have hone : '1'.toNat = 49 := rfl
  split <;> omega

lemma lower_eq_self_iff (cs : List Char) : Text.lower cs = cs ↔ ∀ c ∈ cs, c.isUpper = false := by
  induction cs with
  | nil => simp [Text.lower]
  | cons c cs ih =>
    rw [Text.lower] at ih
    rw [Text.lower, List.map_cons, List.cons.injEq, toLower_eq_self_iff, ih, List.forall_mem_cons]

lemma lower_lower (cs : List Char) : Text.lower (Text.lower cs) = Text.lower cs := by
  rw [lower_eq_self_iff]
  intro c hc
  obtain ⟨d, -, rfl⟩ := List.mem_map.1 hc
  exact isUpper_toLower d

lemma lower_upper {cs : List Char} (h : Text.lower cs = cs) : Text.lower (Text.upper cs) = cs := by
  rw [lower_eq_self_iff] at h
  rw [Text.lower, Text.upper, List.map_map]
  exact map_eq_self fun c hc => toLower_toUpper (h c hc)

/-- Texts of one case with a given lower case: that lower case itself and its upper case. -/
lemma oneCase_iff {s w : List Char} (hw : Text.lower w = w) :
    (Text.OneCase s ∧ Text.lower s = w) ↔ s = w ∨ s = Text.upper w := by
  constructor
  · rintro ⟨hlower | hupper, rfl⟩
    · exact .inl ((lower_eq_self_iff s).2 hlower).symm
    · right
      rw [Text.upper, Text.lower, List.map_map]
      exact (map_eq_self fun c hc => toUpper_toLower (hupper c hc)).symm
  · rintro (rfl | rfl)
    · exact ⟨.inl ((lower_eq_self_iff s).1 hw), hw⟩
    · refine ⟨.inr fun c hc => ?_, lower_upper hw⟩
      obtain ⟨d, -, rfl⟩ := List.mem_map.1 hc
      exact isLower_toUpper d

/-- Whether characters keep to a case. -/
def Keeps : Case → List Char → Prop
  | .lower, cs => ∀ c ∈ cs, c.isUpper = false
  | .upper, cs => ∀ c ∈ cs, c.isLower = false
  | .none, cs => Text.OneCase cs

/-- A text keeps to a case just if its first character does and the others keep to what the case then
is. -/
lemma keeps_cons (case : Case) (c : Char) (cs : List Char) :
    Keeps case (c :: cs) ↔ ∃ next, case.next c = .ok next ∧ Keeps next cs := by
  have hboth : ¬(c.isLower = true ∧ c.isUpper = true) := by
    rw [isLower_iff, isUpper_iff]
    omega
  unfold Case.next
  by_cases hlower : c.isLower
  · have hupper : c.isUpper = false := by simpa [hlower] using hboth
    cases case <;> simp [hlower, hupper, Keeps, Text.OneCase]
  · rw [Bool.not_eq_true] at hlower
    by_cases hupper : c.isUpper
    · cases case <;> simp [hlower, hupper, Keeps, Text.OneCase]
    · rw [Bool.not_eq_true] at hupper
      cases case <;> simp [hlower, hupper, Keeps, Text.OneCase]

lemma utf8EncodeChar_of_lt {c : Char} (h : c.toNat < 128) :
    String.utf8EncodeChar c = [UInt8.ofNat c.toNat] := by
  rw [← Char.toNat_val] at h ⊢
  unfold String.utf8EncodeChar
  simp only [show c.val.toNat ≤ 127 by omega, if_true]

/-- A character that is not in ASCII ends in a byte that is not. -/
lemma exists_high_byte {c : Char} (h : 128 ≤ c.toNat) :
    ∃ b ∈ String.utf8EncodeChar c, 128 ≤ b.toNat := by
  rw [← Char.toNat_val] at h
  have hlast : 128 ≤ (UInt8.ofNat (c.val.toNat % 64 + 128)).toNat := by
    rw [toNat_ofNat (by omega)]
    omega
  refine ⟨_, ?_, hlast⟩
  unfold String.utf8EncodeChar
  simp only [show ¬c.val.toNat ≤ 127 by omega, if_false]
  split
  · simp
  · split <;> simp

lemma encode_of_ascii {cs : List Char} (h : ∀ c ∈ cs, c.toNat < 128) :
    Utf8.encode (String.ofList cs) = cs.map fun c => UInt8.ofNat c.toNat := by
  rw [encode_ofList, ← List.flatMap_singleton' (cs.map _), List.flatMap_map]
  exact List.flatMap_congr fun c hc => utf8EncodeChar_of_lt (h c hc)

lemma ascii_of_encode {cs : List Char}
    (h : ∀ b ∈ Utf8.encode (String.ofList cs), b.toNat < 128) : ∀ c ∈ cs, c.toNat < 128 := by
  intro c hc
  by_contra hhigh
  obtain ⟨b, hb, hbyte⟩ := exists_high_byte (not_lt.1 hhigh)
  rw [encode_ofList] at h
  exact absurd (h b (List.mem_flatMap.2 ⟨c, hc, hb⟩)) (not_lt.2 hbyte)

lemma forall_encode_iff {cs : List Char} (h : ∀ c ∈ cs, c.toNat < 128) (p : Nat → Prop) :
    (∀ b ∈ Utf8.encode (String.ofList cs), p b.toNat) ↔ ∀ c ∈ cs, p c.toNat := by
  rw [encode_of_ascii h, List.forall_mem_map]
  refine forall₂_congr fun c hc => ?_
  have hlt := h c hc
  rw [toNat_ofNat (by omega)]

lemma ascii_of_visible {cs : List Char} (h : ∀ c ∈ cs, 33 ≤ c.toNat ∧ c.toNat ≤ 126) :
    ∀ c ∈ cs, c.toNat < 128 := fun c hc => (h c hc).2.trans_lt (by decide)

/-- Only visible characters have visible bytes. -/
lemma visible_iff (cs : List Char) :
    (∀ b ∈ Utf8.encode (String.ofList cs), 33 ≤ b.toNat ∧ b.toNat ≤ 126) ↔
      ∀ c ∈ cs, 33 ≤ c.toNat ∧ c.toNat ≤ 126 := by
  constructor
  · intro h
    have hascii := ascii_of_encode fun b hb => (h b hb).2.trans_lt (by decide)
    exact (forall_encode_iff hascii fun n => 33 ≤ n ∧ n ≤ 126).1 h
  · intro h
    exact (forall_encode_iff (ascii_of_visible h) fun n => 33 ≤ n ∧ n ≤ 126).2 h

/-- A valid prefix is 1 to 83 visible characters of one case. -/
lemma validPrefix_iff (hrp : List Char) :
    ValidPrefix hrp ↔ (1 ≤ hrp.length ∧ hrp.length ≤ 83) ∧
      (∀ c ∈ hrp, 33 ≤ c.toNat ∧ c.toNat ≤ 126) ∧ Text.OneCase hrp := by
  have hlength (h : ∀ c ∈ hrp, 33 ≤ c.toNat ∧ c.toNat ≤ 126) :
      (Utf8.encode (String.ofList hrp)).length = hrp.length := by
    rw [encode_of_ascii (ascii_of_visible h), List.length_map]
  have hcases (h : ∀ c ∈ hrp, 33 ≤ c.toNat ∧ c.toNat ≤ 126) (low high : Nat) :=
    forall_encode_iff (ascii_of_visible h) fun n => ¬(low ≤ n ∧ n ≤ high)
  simp only [Text.OneCase, isUpper_eq_false_iff, isLower_eq_false_iff]
  constructor
  · rintro ⟨hsize, hvisible, hcase⟩
    have hchars := (visible_iff hrp).1 hvisible
    rw [hlength hchars] at hsize
    rw [hcases hchars, hcases hchars] at hcase
    exact ⟨hsize, hchars, hcase⟩
  · rintro ⟨hsize, hchars, hcase⟩
    refine ⟨?_, (visible_iff hrp).2 hchars, ?_⟩
    · rwa [hlength hchars]
    · rwa [hcases hchars, hcases hchars]

/-- Bytes are accepted as a prefix, with the rest of a text in the case they leave, just if they are
visible and the whole has one case. -/
lemma checkBytes_iff (case : Case) (bs : Bytes) (rest : List Char) :
    (∃ next, checkBytes case bs = .ok next ∧ Keeps next rest) ↔
      (∀ b ∈ bs, 33 ≤ b.toNat ∧ b.toNat ≤ 126) ∧
        Keeps case (bs.map (fun b => Char.ofNat b.toNat) ++ rest) := by
  induction bs generalizing case with
  | nil => simp [checkBytes]
  | cons b bs ih =>
    rw [List.map_cons, List.cons_append, keeps_cons, List.forall_mem_cons]
    by_cases hb : b.toNat < 33 ∨ 126 < b.toNat
    · simp only [checkBytes, if_pos hb]
      have hnot : ¬(33 ≤ b.toNat ∧ b.toNat ≤ 126) := by omega
      simp [hnot]
    · have hvisible : 33 ≤ b.toNat ∧ b.toNat ≤ 126 := by omega
      simp only [checkBytes, if_neg hb]
      cases hnext : case.next (Char.ofNat b.toNat) with
      | error e => simp
      | ok next => simp [hvisible, ih]

/-- A prefix is accepted before a rest just if it is 1 to 83 visible characters and the whole has one
case. -/
lemma checkPrefix_iff (hrp rest : List Char) :
    (∃ case, checkPrefix hrp = .ok case ∧ Keeps case rest) ↔
      (1 ≤ hrp.length ∧ hrp.length ≤ 83) ∧ (∀ c ∈ hrp, 33 ≤ c.toNat ∧ c.toNat ≤ 126) ∧
        Text.OneCase (hrp ++ rest) := by
  by_cases hchars : ∀ c ∈ hrp, 33 ≤ c.toNat ∧ c.toNat ≤ 126
  · have hascii := ascii_of_visible hchars
    have hback : (Utf8.encode (String.ofList hrp)).map (fun b => Char.ofNat b.toNat) = hrp := by
      rw [encode_of_ascii hascii, List.map_map]
      refine map_eq_self fun c hc => ?_
      have hlt := hascii c hc
      rw [Function.comp_apply, toNat_ofNat (by omega), Char.ofNat_toNat]
    have hlength : (Utf8.encode (String.ofList hrp)).length = hrp.length := by
      rw [encode_of_ascii hascii, List.length_map]
    have hbytes := checkBytes_iff .none (Utf8.encode (String.ofList hrp)) rest
    rw [hback, visible_iff] at hbytes
    simp only [checkPrefix, hlength]
    by_cases hsize : hrp.length = 0 ∨ 83 < hrp.length
    · have hnot : ¬(1 ≤ hrp.length ∧ hrp.length ≤ 83) := by omega
      rw [if_pos hsize]
      simp [hnot]
    · have hfits : 1 ≤ hrp.length ∧ hrp.length ≤ 83 := by omega
      rw [if_neg hsize, hbytes]
      simp [hfits, Keeps]
  · refine iff_of_false ?_ fun h => hchars h.2.1
    rintro ⟨case, hcase, hrest⟩
    simp only [checkPrefix] at hcase
    split at hcase
    · exact absurd hcase (by simp)
    · exact hchars ((visible_iff hrp).1 ((checkBytes_iff .none _ rest).1 ⟨case, hcase, hrest⟩).1)

/-- Whether a prefix is accepted on its own. -/
lemma checkPrefix_isOk (hrp : List Char) : (checkPrefix hrp).isOk ↔ ValidPrefix hrp := by
  have hkeeps (case : Case) : Keeps case [] := by cases case <;> simp [Keeps, Text.OneCase]
  have hprefix := checkPrefix_iff hrp []
  rw [List.append_nil] at hprefix
  rw [isOk_iff, validPrefix_iff, ← hprefix]
  simp [hkeeps]

lemma value?_symbol_bech32 : ∀ v < 32, Bech32.value? (Bech32.symbol v) = some v := by
  decide

lemma value?_eq_some {c : Char} {v : Nat} : value? c = some v ↔ v < 32 ∧ symbol v = c := by
  constructor
  · intro h
    obtain ⟨hlt, hc, -⟩ := List.idxOf?_eq_some_iff.1 h
    exact ⟨hlt, by rw [← hc, symbol, List.getD_eq_getElem _ _ hlt]⟩
  · rintro ⟨hlt, rfl⟩
    exact value?_symbol_bech32 v hlt

lemma symbol_ascii : ∀ v < 32, (symbol v).toNat < 128 ∧ symbol v ≠ '1' := by
  decide

lemma readGroups_cons {case : Case} {c : Char} {cs : List Char} {gs : List Nat} :
    readGroups case (c :: cs) = .ok gs ↔ c.toNat < 128 ∧ ∃ next, case.next c = .ok next ∧
      ∃ v rest, value? c.toLower = some v ∧ readGroups next cs = .ok rest ∧ gs = v :: rest := by
  rw [readGroups]
  by_cases hascii : 128 ≤ c.toNat
  · simp [hascii, not_lt.2 hascii]
  rw [if_neg hascii]
  cases hnext : case.next c with
  | error e => simp
  | ok next =>
    cases hvalue : value? c.toLower with
    | none => simp
    | some v =>
      simp only [map_eq_ok]
      constructor
      · rintro ⟨rest, hrest, rfl⟩
        exact ⟨not_le.1 hascii, next, rfl, v, rest, rfl, hrest, rfl⟩
      · rintro ⟨-, next, hsame, w, rest, hvalue, hrest, rfl⟩
        obtain rfl := Except.ok.inj hsame
        obtain rfl := Option.some.inj hvalue
        exact ⟨rest, hrest, rfl⟩

lemma readGroups_eq_ok {case : Case} {cs : List Char} {gs : List Nat} :
    readGroups case cs = .ok gs ↔
      Keeps case cs ∧ (∀ g ∈ gs, g < 32) ∧ Text.lower cs = gs.map symbol := by
  induction cs generalizing case gs with
  | nil =>
    have hkeeps : Keeps case [] := by cases case <;> simp [Keeps, Text.OneCase]
    cases gs <;> simp [readGroups, Text.lower, hkeeps]
  | cons c cs ih =>
    have hlower : Text.lower (c :: cs) = c.toLower :: Text.lower cs := rfl
    rw [keeps_cons, readGroups_cons, hlower]
    constructor
    · rintro ⟨-, next, hnext, v, rest, hvalue, hrest, rfl⟩
      obtain ⟨hkeeps, hlt, hspell⟩ := ih.1 hrest
      obtain ⟨hv, hc⟩ := value?_eq_some.1 hvalue
      exact ⟨⟨next, hnext, hkeeps⟩, List.forall_mem_cons.2 ⟨hv, hlt⟩, by
        rw [List.map_cons, hspell, hc]⟩
    · rintro ⟨⟨next, hnext, hkeeps⟩, hlt, hspell⟩
      obtain ⟨v, rest, rfl, hc, hrest⟩ := List.map_eq_cons_iff.1 hspell.symm
      obtain ⟨hv, hlt⟩ := List.forall_mem_cons.1 hlt
      have hascii := (symbol_ascii v hv).1
      rw [hc, toNat_toLower] at hascii
      refine ⟨?_, next, hnext, v, rest, value?_eq_some.2 ⟨hv, hc⟩, ih.2 ⟨hkeeps, hlt, hrest.symm⟩,
        rfl⟩
      split at hascii <;> omega

/-- The separator is no letter. -/
lemma oneCase_separator (p body : List Char) :
    Text.OneCase (p ++ '1' :: body) ↔ Text.OneCase (p ++ body) := by
  have hupper : '1'.isUpper = false := rfl
  have hlower : '1'.isLower = false := rfl
  simp [Text.OneCase, or_imp, forall_and, hupper, hlower]

lemma validPrefix_lower (p : List Char) :
    ValidPrefix (Text.lower p) ↔ (1 ≤ p.length ∧ p.length ≤ 83) ∧
      ∀ c ∈ p, 33 ≤ c.toNat ∧ c.toNat ≤ 126 := by
  have hcase : Text.OneCase (Text.lower p) := .inl ((lower_eq_self_iff _).1 (lower_lower p))
  rw [validPrefix_iff, Text.lower, List.length_map, List.forall_mem_map]
  rw [Text.lower] at hcase
  simp [visible_toLower, hcase]

/-- The constant that a checksum comes to tells its kind. -/
lemma kind_eq_ok {sum : Nat} {hrp : List Char} {groups : List Nat} {r : List Char × List Nat × Variant} :
    (if sum = Variant.bech32.constant then .ok (hrp, groups, .bech32)
      else if sum = Variant.bech32m.constant then .ok (hrp, groups, .bech32m)
      else .error Bech32Fault.invalidChecksum) = Except.ok r ↔
      ∃ variant : Variant, sum = variant.constant ∧ r = (hrp, groups, variant) := by
  have hdiffer : Variant.bech32m.constant ≠ Variant.bech32.constant := by decide
  constructor
  · intro h
    split at h
    next hsum => exact ⟨_, hsum, (Except.ok.inj h).symm⟩
    split at h
    next hsum => exact ⟨_, hsum, (Except.ok.inj h).symm⟩
    exact absurd h (by simp)
  · rintro ⟨variant, rfl, rfl⟩
    cases variant with
    | bech32 => rfl
    | bech32m => rw [if_neg hdiffer, if_pos rfl]

/-- The steps in which a text is read. -/
lemma read_steps {s hrp : List Char} {payload : List Nat} {variant : Variant} :
    Bech32.read s = .ok (hrp, payload, variant) ↔ ∃ p body case sum, s = p ++ '1' :: body ∧
      '1' ∉ body ∧ checkPrefix p = .ok case ∧ readGroups case body = .ok (payload ++ sum) ∧
      hrp = Text.lower p ∧ sum.length = 6 ∧
      checksum (expand hrp ++ (payload ++ sum)) = variant.constant := by
  rw [Bech32.read]
  cases hsplit : Text.splitLast? '1' s with
  | none =>
    refine iff_of_false (by simp) ?_
    rintro ⟨p, body, case, sum, hs, hone, -⟩
    rw [splitLast?_eq_some.2 ⟨hs, hone⟩] at hsplit
    exact absurd hsplit (by simp)
  | some parts =>
    obtain ⟨p, body⟩ := parts
    obtain ⟨rfl, hone⟩ := splitLast?_eq_some.1 hsplit
    simp only [bind_eq_ok]
    constructor
    · rintro ⟨case, hprefix, groups, hgroups, hread⟩
      split at hread
      · exact absurd hread (by simp)
      next hlong =>
        obtain ⟨kind, hsum, hparts⟩ := kind_eq_ok.1 hread
        simp only [Prod.mk.injEq] at hparts
        obtain ⟨rfl, rfl, rfl⟩ := hparts
        refine ⟨p, body, case, groups.drop (groups.length - 6), rfl, hone, hprefix, ?_, rfl, ?_, ?_⟩
        · rw [List.take_append_drop, hgroups]
        · rw [List.length_drop]
          omega
        · rw [List.take_append_drop, hsum]
    · rintro ⟨p', body', case, sum, hs, hone', hprefix, hgroups, rfl, hlength, hsum⟩
      have hsame := splitLast?_eq_some.2 ⟨hs, hone'⟩
      rw [hsplit, Option.some.injEq, Prod.mk.injEq] at hsame
      obtain ⟨rfl, rfl⟩ := hsame
      have hshort : (payload ++ sum).length - 6 = payload.length := by
        rw [List.length_append]
        omega
      refine ⟨case, hprefix, payload ++ sum, hgroups, ?_⟩
      rw [if_neg (by rw [List.length_append]; omega), hshort, List.take_left]
      exact kind_eq_ok.2 ⟨variant, hsum, rfl⟩

/-- A text is read as a prefix, groups and the kind of its checksum just if its letters have one case
and its lower case spells them. -/
lemma read_eq_ok {s hrp : List Char} {payload : List Nat} {variant : Variant} :
    Bech32.read s = .ok (hrp, payload, variant) ↔
      Text.OneCase s ∧ ValidPrefix hrp ∧ ∃ sum : List Nat, sum.length = 6 ∧
        (∀ g ∈ payload ++ sum, g < 32) ∧
        Text.lower s = hrp ++ '1' :: (payload ++ sum).map symbol ∧
        checksum (expand hrp ++ (payload ++ sum)) = variant.constant := by
  rw [read_steps]
  constructor
  · rintro ⟨p, body, case, sum, rfl, -, hprefix, hgroups, rfl, hlength, hsum⟩
    obtain ⟨hkeeps, hlt, hspell⟩ := readGroups_eq_ok.1 hgroups
    obtain ⟨hsize, hvisible, hcase⟩ := (checkPrefix_iff p body).1 ⟨case, hprefix, hkeeps⟩
    refine ⟨(oneCase_separator p body).2 hcase, (validPrefix_lower p).2 ⟨hsize, hvisible⟩, sum, hlength,
      hlt, ?_, hsum⟩
    rw [← hspell, Text.lower, List.map_append, List.map_cons]
    rfl
  · rintro ⟨hcase, hvalid, sum, hlength, hlt, hspell, hsum⟩
    obtain ⟨p, tail, rfl, rfl, htail⟩ := List.map_eq_append_iff.1 hspell
    obtain ⟨c, body, rfl, hc, hbody⟩ := List.map_eq_cons_iff.1 htail
    obtain rfl := (toLower_eq_separator c).1 hc
    obtain ⟨hsize, hvisible⟩ := (validPrefix_lower p).1 hvalid
    obtain ⟨case, hprefix, hkeeps⟩ := (checkPrefix_iff p body).2
      ⟨hsize, hvisible, (oneCase_separator p body).1 hcase⟩
    refine ⟨p, body, case, sum, rfl, fun hone => ?_, hprefix, readGroups_eq_ok.2 ⟨hkeeps, hlt, hbody⟩,
      rfl, hlength, hsum⟩
    -- the separator would be the symbol of a group
    have hsymbol : '1'.toLower ∈ (payload ++ sum).map symbol := by
      rw [← hbody]
      exact List.mem_map_of_mem hone
    obtain ⟨g, hg, hone⟩ := List.mem_map.1 hsymbol
    exact (symbol_ascii g (hlt g hg)).2 hone

end CosmosClient.Proofs
