import Mathlib
import CosmosClient.BitArray

/-!
# Bits in bytes

The number of bits set before a place is counted over whole bytes and a part of one byte; it is the
number of set bits at the places before. No byte beyond the last is ever asked for, even in a row that
claims more bits than its bytes hold.
-/

namespace CosmosClient.BitArray

/-- The bit at a place, where reading beyond the last byte has no result. -/
def strictGet? (b : BitArray) (i : Nat) : Option Bool :=
  if i < b.size then b.elems[i / 8]?.map fun byte => byte &&& mask i != 0 else some false

/-- Sets or clears the bit at a place, where changing a byte beyond the last has no result; beyond the
end nothing changes. -/
def strictSet? (b : BitArray) (i : Nat) (value : Bool) : Option BitArray :=
  if i < b.size then
    b.elems[i / 8]?.map fun byte =>
      { b with elems := b.elems.set (i / 8) (if value then byte ||| mask i else byte &&& ~~~mask i) }
  else some b

/-- The number of bits set before a place, where bytes beyond the last have no result. -/
def strictCountBefore? (b : BitArray) (i : Nat) : Option Nat :=
  let i := min i b.size
  if i / 8 ≤ b.elems.length then
    let whole := (b.elems.take (i / 8)).foldl (fun n byte => n + ones byte) 0
    if i % 8 = 0 then some whole
    else b.elems[i / 8]?.map fun byte => whole + ones (byte &&& ~~~(0xFF >>> UInt8.ofNat (i % 8)))
  else none

end CosmosClient.BitArray

namespace CosmosClient.Proofs

lemma size_le (b : BitArray) : b.size ≤ b.elems.length * 8 := by
  unfold BitArray.size
  split
  · exact le_refl _
  · exact Nat.min_le_right _ _

lemma size_ofSize (n : Nat) : (BitArray.ofSize n).size = n := by
  have hextra : (UInt32.ofNat (n % 8)).toNat = n % 8 :=
    UInt32.toNat_ofNat_of_lt' (by simp only [UInt32.size]; omega)
  have hzero : UInt32.ofNat (n % 8) = 0 ↔ n % 8 = 0 := by
    rw [← UInt32.toNat_inj, hextra]
    rfl
  simp only [BitArray.size, BitArray.ofSize, List.length_replicate, hextra, hzero]
  split <;> omega

lemma byte_lt_of_lt_size {b : BitArray} {i : Nat} (h : i < b.size) : i / 8 < b.elems.length := by
  have hle := size_le b
  omega

lemma strictGet?_eq (b : BitArray) (i : Nat) : b.strictGet? i = some (b.get i) := by
  unfold BitArray.strictGet? BitArray.get
  by_cases h : i < b.size
  · rw [if_pos h, if_pos h, List.getElem?_eq_getElem (byte_lt_of_lt_size h),
      List.getD_eq_getElem _ _ (byte_lt_of_lt_size h)]
    rfl
  · rw [if_neg h, if_neg h]

lemma strictSet?_eq (b : BitArray) (i : Nat) (value : Bool) :
    b.strictSet? i value = some ((b.set? i value).getD b) := by
  unfold BitArray.strictSet? BitArray.set?
  by_cases h : i < b.size
  · have hbyte := byte_lt_of_lt_size h
    rw [if_pos h, if_pos h, List.getElem?_eq_getElem hbyte]
    simp only [Option.map_some, Option.getD_some, List.modify_eq_set_getElem?]
    simp [hbyte]
  · rw [if_neg h, if_neg h]
    rfl

lemma strictCountBefore?_eq (b : BitArray) (i : Nat) :
    b.strictCountBefore? i = some (b.countBefore i) := by
  have hle := size_le b
  unfold BitArray.strictCountBefore? BitArray.countBefore
  simp only
  rw [if_pos (by omega)]
  by_cases h : min i b.size % 8 = 0
  · rw [if_pos h, if_pos h]
    rfl
  · have hbyte : min i b.size / 8 < b.elems.length := by omega
    rw [if_neg h, if_neg h, List.getElem?_eq_getElem hbyte, List.getD_eq_getElem _ _ hbyte]
    rfl

/-- Whether the bit of a byte at a place is set. -/
def bit (byte : UInt8) (i : Nat) : Bool :=
  byte &&& BitArray.mask i != 0

lemma mask_toNat (i : Nat) : (BitArray.mask i).toNat = 2 ^ (7 - i % 8) := by
  have h : ∀ k < 8, (BitArray.mask k).toNat = 2 ^ (7 - k) := by decide
  have hmod : BitArray.mask i = BitArray.mask (i % 8) := by
    rw [BitArray.mask, BitArray.mask, Nat.mod_mod]
  rw [hmod, h _ (Nat.mod_lt _ (by decide))]

lemma bit_eq_testBit (byte : UInt8) (i : Nat) : bit byte i = byte.toNat.testBit (7 - i % 8) := by
  have hand : (byte &&& BitArray.mask i).toNat =
      (byte.toNat.testBit (7 - i % 8)).toNat * 2 ^ (7 - i % 8) := by
    rw [UInt8.toNat_and, mask_toNat, Nat.and_two_pow]
  rw [bit, bne, Bool.eq_iff_iff, Bool.not_eq_true', beq_eq_false_iff_ne, ne_eq, ← UInt8.toNat_inj,
    hand]
  cases byte.toNat.testBit (7 - i % 8) <;> simp

lemma testBit_mask (i j : Nat) :
    (BitArray.mask i).toNat.testBit (7 - j % 8) = decide (i % 8 = j % 8) := by
  rw [mask_toNat, Nat.testBit_two_pow]
  exact decide_eq_decide.2 (by omega)

lemma bit_change (byte : UInt8) (i j : Nat) (value : Bool) :
    bit (if value then byte ||| BitArray.mask i else byte &&& ~~~BitArray.mask i) j =
      if i % 8 = j % 8 then value else bit byte j := by
  rw [bit_eq_testBit, bit_eq_testBit]
  cases value with
  | true =>
    rw [if_pos rfl, UInt8.toNat_or, Nat.testBit_or, testBit_mask]
    by_cases hplace : i % 8 = j % 8 <;> simp [hplace]
  | false =>
    have hnot : (~~~BitArray.mask i).toNat = 2 ^ 8 - ((BitArray.mask i).toNat + 1) := by
      rw [UInt8.toNat_not, UInt8.size]
      omega
    have hlt : 7 - j % 8 < 8 := by omega
    rw [if_neg Bool.false_ne_true, UInt8.toNat_and, hnot, Nat.testBit_and,
      Nat.testBit_two_pow_sub_succ (BitArray.mask i).toNat_lt, testBit_mask, decide_eq_true hlt]
    by_cases hplace : i % 8 = j % 8 <;> simp [hplace]

/-- The places kept of a byte that is counted in part. -/
lemma bit_front (byte : UInt8) {r j : Nat} (hr : r < 8) (hj : j < 8) :
    bit (byte &&& ~~~(0xFF >>> UInt8.ofNat r)) j = (bit byte j && decide (j < r)) := by
  have hfront : ∀ r < 8, ∀ j < 8,
      (~~~(0xFF >>> UInt8.ofNat r) : UInt8).toNat.testBit (7 - j) = decide (j < r) := by decide
  rw [bit_eq_testBit, bit_eq_testBit, UInt8.toNat_and, Nat.testBit_and, Nat.mod_eq_of_lt hj,
    hfront r hr j hj]

lemma bit_zero (i : Nat) : bit 0 i = false := by
  rw [bit_eq_testBit]
  exact Nat.zero_testBit _

lemma ones_eq_countP (byte : UInt8) : BitArray.ones byte = (List.range 8).countP (bit byte) := by
  rw [BitArray.ones, List.countP_eq_length_filter]
  rfl

lemma range_split {r n : Nat} (h : r ≤ n) :
    List.range n = List.range r ++ (List.range (n - r)).map (r + ·) := by
  rw [← List.range_add, Nat.add_sub_cancel' h]

lemma ones_front (byte : UInt8) {r : Nat} (hr : r < 8) :
    BitArray.ones (byte &&& ~~~(0xFF >>> UInt8.ofNat r)) = (List.range r).countP (bit byte) := by
  have hfront : (List.range r).countP (bit (byte &&& ~~~(0xFF >>> UInt8.ofNat r))) =
      (List.range r).countP (bit byte) := by
    apply List.countP_congr
    intro j hj
    have hlt := List.mem_range.1 hj
    rw [bit_front byte hr (by omega), decide_eq_true hlt, Bool.and_true]
  have hback : ((List.range (8 - r)).map (r + ·)).countP
      (bit (byte &&& ~~~(0xFF >>> UInt8.ofNat r))) = 0 := by
    apply List.countP_eq_zero.2
    intro j hj
    obtain ⟨k, hk, rfl⟩ := List.mem_map.1 hj
    have hlt := List.mem_range.1 hk
    rw [bit_front byte hr (by omega), decide_eq_false (by omega), Bool.and_false]
    exact Bool.false_ne_true
  rw [ones_eq_countP, range_split (Nat.le_of_lt hr), List.countP_append, hfront, hback, Nat.add_zero]

/-- Whether the bit at a place is set, where the bytes alone tell how many places there are. -/
def bitOf (elems : Bytes) (i : Nat) : Bool :=
  bit (elems.getD (i / 8) 0) i

lemma get_eq_bitOf {b : BitArray} {i : Nat} (h : i < b.size) : b.get i = bitOf b.elems i := by
  rw [BitArray.get, if_pos h, bitOf, bit]

lemma get_eq_false {b : BitArray} {i : Nat} (h : b.size ≤ i) : b.get i = false :=
  if_neg (Nat.not_lt.2 h)

lemma bitOf_ofSize (n i : Nat) : bitOf (BitArray.ofSize n).elems i = false := by
  have hzero : (List.replicate ((n + 7) / 8) (0 : UInt8)).getD (i / 8) 0 = 0 := by
    rw [List.getD_eq_getElem?_getD, List.getElem?_replicate]
    split <;> rfl
  rw [bitOf, BitArray.ofSize, hzero, bit_zero]

lemma bit_add (byte : UInt8) (k i : Nat) : bit byte (8 * k + i) = bit byte i := by
  rw [bit_eq_testBit, bit_eq_testBit, Nat.mul_add_mod]

/-- Changing a bit changes that bit only, also among the places beyond the end. -/
lemma set?_eq_some {b : BitArray} {i : Nat} (h : i < b.size) (value : Bool) :
    ∃ c, b.set? i value = some c ∧ c.extra = b.extra ∧ c.elems.length = b.elems.length ∧
      ∀ j, bitOf c.elems j = if j = i then value else bitOf b.elems j := by
  refine ⟨_, if_pos h, rfl, List.length_modify .., ?_⟩
  intro j
  have hi := byte_lt_of_lt_size h
  simp only [bitOf, List.getD_eq_getElem?_getD, List.getElem?_modify]
  by_cases hbyte : i / 8 = j / 8
  · have hplace : i % 8 = j % 8 ↔ j = i := by omega
    simp only [← hbyte, if_true, List.getElem?_eq_getElem hi, Option.map_eq_map, Option.map_some,
      Option.getD_some]
    rw [bit_change]
    exact if_congr hplace rfl rfl
  · have hne : j ≠ i := by
      rintro rfl
      exact hbyte rfl
    simp only [hbyte, if_false, id_map', if_neg hne]

lemma set?_true {b : BitArray} {i : Nat} (h : i < b.size) :
    ∃ c, b.set? i true = some c ∧ c.extra = b.extra ∧ c.elems.length = b.elems.length ∧
      ∀ j, bitOf c.elems j = (decide (j = i) || bitOf b.elems j) := by
  obtain ⟨c, hset, hextra, hlength, hbits⟩ := set?_eq_some h true
  refine ⟨c, hset, hextra, hlength, fun j => ?_⟩
  rw [hbits]
  by_cases hj : j = i <;> simp [hj]

lemma size_congr {b c : BitArray} (hextra : b.extra = c.extra)
    (hlength : b.elems.length = c.elems.length) : b.size = c.size := by
  rw [BitArray.size, BitArray.size, hextra, hlength]

lemma byte_ext {a b : UInt8} (h : ∀ i < 8, bit a i = bit b i) : a = b := by
  rw [← UInt8.toNat_inj]
  apply Nat.eq_of_testBit_eq
  intro t
  by_cases ht : t < 8
  · have hbit := h (7 - t) (by omega)
    have hplace : 7 - (7 - t) % 8 = t := by omega
    rwa [bit_eq_testBit, bit_eq_testBit, hplace] at hbit
  · have hle : 2 ^ 8 ≤ 2 ^ t := Nat.pow_le_pow_right (by decide) (by omega)
    rw [Nat.testBit_eq_false_of_lt (lt_of_lt_of_le a.toNat_lt hle),
      Nat.testBit_eq_false_of_lt (lt_of_lt_of_le b.toNat_lt hle)]

/-- Bytes are known by their bits. -/
lemma elems_ext {a b : Bytes} (hlength : a.length = b.length)
    (h : ∀ i, bitOf a i = bitOf b i) : a = b := by
  apply List.ext_getElem hlength
  intro k ha hb
  apply byte_ext
  intro i hi
  have hbit := h (8 * k + i)
  have hdiv : (8 * k + i) / 8 = k := by omega
  rwa [bitOf, bitOf, hdiv, List.getD_eq_getElem _ _ ha, List.getD_eq_getElem _ _ hb, bit_add,
    bit_add] at hbit

lemma countP_byte (elems : Bytes) (k : Nat) {r : Nat} (hr : r ≤ 8) :
    ((List.range r).map (8 * k + ·)).countP (bitOf elems) =
      (List.range r).countP (bit (elems.getD k 0)) := by
  rw [List.countP_map]
  apply List.countP_congr
  intro i hi
  have hlt := List.mem_range.1 hi
  have hdiv : (8 * k + i) / 8 = k := by omega
  rw [Function.comp_apply, bitOf, hdiv, bit_add]

lemma foldl_ones (elems : Bytes) {k : Nat} (hk : k ≤ elems.length) :
    (elems.take k).foldl (fun n byte => n + BitArray.ones byte) 0 =
      (List.range (8 * k)).countP (bitOf elems) := by
  induction k with
  | zero => rfl
  | succ k ih =>
    have hlt : k < elems.length := hk
    have htake : elems.take (k + 1) = elems.take k ++ [elems.getD k 0] := by
      rw [List.take_add_one, List.getElem?_eq_getElem hlt, List.getD_eq_getElem _ _ hlt]
      rfl
    have hrest : 8 * (k + 1) - 8 * k = 8 := by omega
    rw [htake, List.foldl_append, ih (Nat.le_of_lt hlt),
      range_split (Nat.mul_le_mul_left 8 (Nat.le_succ k)), List.countP_append, hrest,
      countP_byte elems k (le_refl 8), ← ones_eq_countP]
    rfl

/-- The number of bits set before a place is the number of places before it whose bit is set. -/
lemma countBefore_eq (b : BitArray) (i : Nat) :
    b.countBefore i = (List.range (min i b.size)).countP b.get := by
  have hle := size_le b
  have hget : (List.range (min i b.size)).countP b.get =
      (List.range (min i b.size)).countP (bitOf b.elems) := by
    apply List.countP_congr
    intro j hj
    have hlt : j < b.size := by
      have := List.mem_range.1 hj
      omega
    rw [get_eq_bitOf hlt]
  rw [hget]
  unfold BitArray.countBefore
  simp only
  generalize hn : min i b.size = n
  have hrest : n - 8 * (n / 8) = n % 8 := by omega
  rw [foldl_ones b.elems (by omega), range_split (n := n) (Nat.mul_div_le n 8), List.countP_append,
    hrest, countP_byte b.elems _ (by omega)]
  by_cases hmod : n % 8 = 0
  · rw [if_pos hmod, hmod]
    rfl
  · rw [if_neg hmod, ones_front _ (by omega)]

/-- After a change the place has its new bit, and nothing else has changed. -/
lemma get_set? {b : BitArray} {i : Nat} (h : i < b.size) (value : Bool) :
    ∃ c, b.set? i value = some c ∧ c.get i = value ∧ (∀ j, j ≠ i → c.get j = b.get j) ∧
      c.extra = b.extra ∧ c.size = b.size := by
  obtain ⟨c, hset, hextra, hlength, hbits⟩ := set?_eq_some h value
  have hsize : c.size = b.size := size_congr hextra hlength
  refine ⟨c, hset, ?_, ?_, hextra, hsize⟩
  · rw [get_eq_bitOf (hsize.symm ▸ h), hbits, if_pos rfl]
  · intro j hj
    by_cases hlt : j < b.size
    · rw [get_eq_bitOf (hsize.symm ▸ hlt), get_eq_bitOf hlt, hbits, if_neg hj]
    · rw [get_eq_false (by omega), get_eq_false (by omega)]

lemma get_ofSize (n i : Nat) : (BitArray.ofSize n).get i = false := by
  by_cases h : i < (BitArray.ofSize n).size
  · rw [get_eq_bitOf h, bitOf_ofSize]
  · exact get_eq_false (Nat.not_lt.1 h)

/-- Every row of bits, also one that claims more bits than its bytes hold, is as long as its bytes
allow and never reaches beyond them. Beyond its end no bit is set and none can be changed; changing a
bit within changes that bit alone; the bits before a place are counted one by one; and a new row has
as many bits as it was made for, none of them set. -/
theorem bits_within_bytes (b : BitArray) :
    b.size ≤ 8 * b.elems.length ∧
    (∀ i, b.strictGet? i = some (b.get i)) ∧
    (∀ i value, b.strictSet? i value = some ((b.set? i value).getD b)) ∧
    (∀ i, b.strictCountBefore? i = some (b.countBefore i)) ∧
    (∀ i, b.size ≤ i → b.get i = false ∧ ∀ value, b.set? i value = none) ∧
    (∀ i value, i < b.size → ∃ c, b.set? i value = some c ∧ c.get i = value ∧
      (∀ j, j ≠ i → c.get j = b.get j) ∧ c.extra = b.extra ∧ c.size = b.size) ∧
    (∀ i, b.countBefore i = (List.range (min i b.size)).countP b.get) ∧
    ∀ n, (BitArray.ofSize n).size = n ∧ ∀ i, (BitArray.ofSize n).get i = false := by
  refine ⟨?_, strictGet?_eq b, strictSet?_eq b, strictCountBefore?_eq b, ?_, ?_, countBefore_eq b,
    fun n => ⟨size_ofSize n, get_ofSize n⟩⟩
  · have hle := size_le b
    omega
  · intro i hi
    exact ⟨get_eq_false hi, fun value => if_neg (Nat.not_lt.2 hi)⟩
  · intro i value hi
    exact get_set? hi value

/-- A row that claims twelve bits in one byte and four in another. -/
def overlongRow : BitArray := ⟨12, [0b10100000, 0b01000001]⟩

theorem overlongRow_within : overlongRow.size = 16 ∧
    (16 ≤ 20 ∧ overlongRow.get 20 = false) ∧
    (9 < overlongRow.size ∧ ∃ c, overlongRow.set? 9 false = some c ∧ c.get 9 = false ∧ c.get 15 = true) ∧
    overlongRow.countBefore 20 = 4 := by
  obtain ⟨-, -, -, -, hbeyond, hset, hcount, -⟩ := bits_within_bytes overlongRow
  have hsize : overlongRow.size = 16 := by decide
  have hlt : 9 < overlongRow.size := by decide
  obtain ⟨c, hc, hget, hothers, -, -⟩ := hset 9 false hlt
  refine ⟨hsize, ⟨by decide, (hbeyond 20 (by decide)).1⟩, ⟨hlt, c, hc, hget, ?_⟩, ?_⟩
  · rw [hothers 15 (by decide)]
    decide
  · rw [hcount]
    decide

end CosmosClient.Proofs
