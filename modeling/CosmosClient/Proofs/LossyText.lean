import Mathlib
import CosmosClient.Text.Utf8

/-!
# Text in bytes that are text

Bytes that are no text are read with replacements. Of the bytes of a text nothing is replaced: each
character is a whole one where it begins.
-/

namespace CosmosClient.Proofs
open Utf8

lemma leader_two : ∀ i < 30,
    leader (UInt8.ofNat (0xC2 + i)) = some (UInt8.ofNat 0x80, UInt8.ofNat 0xBF, 0) := by
  decide +kernel

lemma leader_three : ∀ i < 16, leader (UInt8.ofNat (0xE0 + i)) =
    some (UInt8.ofNat (if i = 0 then 0xA0 else 0x80), UInt8.ofNat (if i = 13 then 0x9F else 0xBF), 1)
      := by
  decide +kernel

lemma leader_four : ∀ i < 5, leader (UInt8.ofNat (0xF0 + i)) =
    some (UInt8.ofNat (if i = 0 then 0x90 else 0x80), UInt8.ofNat (if i = 4 then 0x8F else 0xBF), 2)
      := by
  decide +kernel

lemma isTail_ofNat : ∀ n < 64, isTail (UInt8.ofNat (n + 128)) := by
  decide +kernel

lemma toNat_ofNat {n : Nat} (h : n < 256) : (UInt8.ofNat n).toNat = n :=
  UInt8.toNat_ofNat_of_lt' h

lemma ofNat_within {low high n : Nat} (hlow : low ≤ n) (hhigh : n ≤ high) (hbyte : high < 256) :
    UInt8.ofNat low ≤ UInt8.ofNat n ∧ UInt8.ofNat n ≤ UInt8.ofNat high := by
  rw [UInt8.le_iff_toNat_le, UInt8.le_iff_toNat_le, toNat_ofNat (by omega), toNat_ofNat (by omega),
    toNat_ofNat hbyte]
  exact ⟨hlow, hhigh⟩

lemma not_single {n : Nat} (h : 0x80 ≤ n) (hn : n < 256) : ¬UInt8.ofNat n < 0x80 := by
  rw [UInt8.lt_iff_toNat_lt, toNat_ofNat hn, not_lt]
  exact h

lemma span_of_leader {a b low high : UInt8} {tails : Bytes} (ha : ¬a < 0x80)
    (hleader : leader a = some (low, high, tails.length)) (hb : low ≤ b ∧ b ≤ high)
    (htails : ∀ x ∈ tails, isTail x) (rest : Bytes) :
    span (a :: b :: (tails ++ rest)) = (2 + tails.length, true) := by
  have hrange : (low ≤ b && b ≤ high) = true := by simpa using hb
  have htake : ((tails ++ rest).take tails.length).takeWhile isTail = tails := by
    rw [List.take_left, List.takeWhile_eq_self_iff]
    exact htails
  simp only [span, if_neg ha, hleader, hrange, if_true, htake, beq_self_eq_true]

lemma span_one {n : Nat} (hn : n < 0x80) (rest : Bytes) :
    span ([UInt8.ofNat n] ++ rest) = (1, true) := by
  have hlt : UInt8.ofNat n < 0x80 := by
    rw [UInt8.lt_iff_toNat_lt, toNat_ofNat (by omega)]
    exact hn
  simp [span, hlt]

lemma span_two {n : Nat} (hlow : 0x80 ≤ n) (hhigh : n < 0x800) (rest : Bytes) :
    span ([UInt8.ofNat (n / 64 % 32 + 192), UInt8.ofNat (n % 64 + 128)] ++ rest) = (2, true) := by
  have hleader := leader_two (n / 64 - 2) (by omega)
  have hlead : 0xC2 + (n / 64 - 2) = n / 64 % 32 + 192 := by omega
  rw [hlead] at hleader
  have hsecond : UInt8.ofNat 0x80 ≤ UInt8.ofNat (n % 64 + 128) ∧
      UInt8.ofNat (n % 64 + 128) ≤ UInt8.ofNat 0xBF :=
    ofNat_within (by omega) (by omega) (by omega)
  exact @span_of_leader _ _ _ _ [] (not_single (by omega) (by omega)) hleader hsecond (by simp) rest

/-- The characters of three bytes leave out the surrogates, and so do the second bytes behind `0xED`. -/
lemma span_three {n : Nat} (hlow : 0x800 ≤ n) (hhigh : n < 0x10000)
    (hvalid : n < 0xD800 ∨ 0xDFFF < n) (rest : Bytes) :
    span ([UInt8.ofNat (n / 4096 % 16 + 224), UInt8.ofNat (n / 64 % 64 + 128),
      UInt8.ofNat (n % 64 + 128)] ++ rest) = (3, true) := by
  have hleader := leader_three (n / 4096) (by omega)
  have hlead : 0xE0 + n / 4096 = n / 4096 % 16 + 224 := by omega
  rw [hlead] at hleader
  have hsecond := @ofNat_within (if n / 4096 = 0 then 0xA0 else 0x80)
    (if n / 4096 = 13 then 0x9F else 0xBF) (n / 64 % 64 + 128) (by split <;> omega)
    (by split <;> omega) (by split <;> omega)
  have htails : ∀ x ∈ [UInt8.ofNat (n % 64 + 128)], isTail x := by
    simpa using isTail_ofNat (n % 64) (by omega)
  exact @span_of_leader _ _ _ _ [UInt8.ofNat (n % 64 + 128)] (not_single (by omega) (by omega)) hleader
    hsecond htails rest

lemma span_four {n : Nat} (hlow : 0x10000 ≤ n) (hhigh : n < 0x110000) (rest : Bytes) :
    span ([UInt8.ofNat (n / 262144 % 8 + 240), UInt8.ofNat (n / 4096 % 64 + 128),
      UInt8.ofNat (n / 64 % 64 + 128), UInt8.ofNat (n % 64 + 128)] ++ rest) = (4, true) := by
  have hleader := leader_four (n / 262144) (by omega)
  have hlead : 0xF0 + n / 262144 = n / 262144 % 8 + 240 := by omega
  rw [hlead] at hleader
  have hsecond := @ofNat_within (if n / 262144 = 0 then 0x90 else 0x80)
    (if n / 262144 = 4 then 0x8F else 0xBF) (n / 4096 % 64 + 128) (by split <;> omega)
    (by split <;> omega) (by split <;> omega)
  have htails : ∀ x ∈ [UInt8.ofNat (n / 64 % 64 + 128), UInt8.ofNat (n % 64 + 128)], isTail x := by
    have hthird := isTail_ofNat (n / 64 % 64) (by omega)
    have hfourth := isTail_ofNat (n % 64) (by omega)
    intro x hx
    rcases List.mem_cons.1 hx with rfl | hx
    · exact hthird
    · obtain rfl := List.mem_singleton.1 hx
      exact hfourth
  exact @span_of_leader _ _ _ _ [UInt8.ofNat (n / 64 % 64 + 128), UInt8.ofNat (n % 64 + 128)]
    (not_single (by omega) (by omega)) hleader hsecond htails rest

lemma span_char (c : Char) (rest : Bytes) :
    span (String.utf8EncodeChar c ++ rest) = ((String.utf8EncodeChar c).length, true) := by
  have hvalid : c.val.toNat < 0xD800 ∨ (0xDFFF < c.val.toNat ∧ c.val.toNat < 0x110000) := c.valid
  unfold String.utf8EncodeChar
  generalize c.val.toNat = n at hvalid
  simp only
  split
  next hone => exact span_one (by omega) rest
  next hone =>
    split
    next htwo => exact span_two (by omega) (by omega) rest
    next htwo =>
      split
      next hthree => exact span_three (by omega) (by omega) (by omega) rest
      next hthree => exact span_four (by omega) (by omega) rest

lemma encode_ofList (cs : List Char) :
    encode (String.ofList cs) = cs.flatMap String.utf8EncodeChar := by
  rw [encode, String.toByteArray_ofList, List.utf8Encode, List.data_toByteArray, List.toList_toArray]

lemma pieces_encode (cs : List Char) (fuel : Nat)
    (hfuel : (cs.flatMap String.utf8EncodeChar).length ≤ fuel) :
    decodeLossy.pieces fuel (cs.flatMap String.utf8EncodeChar) = cs.map String.singleton := by
  induction cs generalizing fuel with
  | nil => cases fuel <;> rfl
  | cons c cs ih =>
    have hpos : 0 < (String.utf8EncodeChar c).length := by
      rw [String.length_utf8EncodeChar]
      exact c.utf8Size_pos
    rw [List.flatMap_cons] at hfuel ⊢
    rw [List.length_append] at hfuel
    obtain ⟨fuel, rfl⟩ : ∃ n, fuel = n + 1 := ⟨fuel - 1, by omega⟩
    have hwhole : decode? (String.utf8EncodeChar c) = some (String.singleton c) := by
      have hsingle : encode (String.singleton c) = String.utf8EncodeChar c := by
        have h := encode_ofList [c]
        simpa using h
      rw [← hsingle, decode_encode]
    obtain ⟨b, bs, hbytes⟩ := List.exists_cons_of_length_pos hpos
    have hspan := span_char c (cs.flatMap String.utf8EncodeChar)
    have hstep : decodeLossy.pieces (fuel + 1)
        (String.utf8EncodeChar c ++ cs.flatMap String.utf8EncodeChar) =
        String.singleton c :: decodeLossy.pieces fuel (cs.flatMap String.utf8EncodeChar) := by
      have hmax : max (b :: bs).length 1 = (b :: bs).length := Nat.max_eq_left (by simp)
      rw [hbytes] at hspan hwhole ⊢
      have hne : b :: (bs ++ cs.flatMap String.utf8EncodeChar) = [] → False := List.cons_ne_nil _ _
      rw [List.cons_append, decodeLossy.pieces.eq_3 _ _ hne, ← List.cons_append, hspan]
      simp only [if_true, List.take_left, hwhole, Option.getD_some, hmax, List.drop_left]
    rw [hstep, ih fuel (by omega), List.map_cons]

/-- A text is read from its bytes without replacements. -/
lemma decodeLossy_encode (s : String) : decodeLossy (encode s) = s := by
  have hbytes : encode s = s.toList.flatMap String.utf8EncodeChar := by
    rw [← encode_ofList, String.ofList_toList]
  have hjoin (cs : List Char) : String.join (cs.map String.singleton) = String.ofList cs := by
    induction cs with
    | nil => rfl
    | cons c cs ih => rw [List.map_cons, String.join_cons, ih, String.ofList_cons]
  rw [decodeLossy, hbytes, pieces_encode _ _ (le_refl _), hjoin, String.ofList_toList]

end CosmosClient.Proofs
