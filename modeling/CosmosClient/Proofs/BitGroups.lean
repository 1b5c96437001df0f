import Mathlib
import CosmosClient.Proofs.Results
import CosmosClient.Text.Bech32

/-!
# Bytes in groups of five bits

Bytes are cut into groups of five bits, and the last group is filled up with zeros. Groups stand for
bytes only if they are the groups of those bytes: what is left over behind the last whole byte is
shorter than a group and zero.
-/

namespace CosmosClient.Proofs
open Bech32

@[simp]
lemma length_bits (width n : Nat) : (bits width n).length = width := by
  simp [bits]

lemma bits_succ (width n : Nat) : bits (width + 1) n = n.testBit width :: bits width n := by
  simp only [bits, List.range_succ_eq_map, List.map_cons, List.map_map, Nat.add_sub_cancel,
    Nat.sub_zero, List.cons.injEq, true_and]
  apply List.map_congr_left
  intro i _
  rw [Function.comp_apply, Nat.succ_eq_add_one, Nat.sub_add_eq, Nat.sub_right_comm]

lemma foldl_bits (n : Nat) (bs : List Bool) :
    bs.foldl (fun n b => 2 * n + b.toNat) n = n * 2 ^ bs.length + ofBits bs := by
  induction bs generalizing n with
  | nil => simp [ofBits]
  | cons b bs ih =>
    have hfirst : ofBits (b :: bs) = bs.foldl (fun n b => 2 * n + b.toNat) b.toNat := by
      simp [ofBits]
    rw [List.foldl_cons, hfirst, ih, ih b.toNat, List.length_cons]
    ring

lemma ofBits_cons (b : Bool) (bs : List Bool) :
    ofBits (b :: bs) = b.toNat * 2 ^ bs.length + ofBits bs := by
  rw [← foldl_bits]
  simp [ofBits]

lemma ofBits_lt (bs : List Bool) : ofBits bs < 2 ^ bs.length := by
  induction bs with
  | nil => simp [ofBits]
  | cons b bs ih =>
    rw [ofBits_cons, List.length_cons, pow_succ]
    cases b <;> simp <;> omega

lemma ofBits_bits (width n : Nat) : ofBits (bits width n) = n % 2 ^ width := by
  induction width with
  | zero => simp [bits, ofBits, Nat.mod_one]
  | succ width ih =>
    rw [bits_succ, ofBits_cons, length_bits, ih, Nat.toNat_testBit, Nat.mod_pow_succ]
    ring

/-- What stands above a width does not change the bits below it. -/
lemma bits_add {width n : Nat} (hn : n < 2 ^ width) (k : Nat) :
    bits width (2 ^ width * k + n) = bits width n := by
  apply List.map_congr_left
  intro i hi
  have hlow : width - 1 - i < width := by
    have hwidth := List.mem_range.1 hi
    omega
  rw [Nat.testBit_two_pow_mul_add k hn, if_pos hlow]

lemma bits_ofBits (bs : List Bool) : bits bs.length (ofBits bs) = bs := by
  induction bs with
  | nil => rfl
  | cons b bs ih =>
    have htop : (2 ^ bs.length * b.toNat + ofBits bs).testBit bs.length = b := by
      rw [Nat.testBit_two_pow_mul_add _ (ofBits_lt bs), if_neg (lt_irrefl _), Nat.sub_self]
      cases b <;> rfl
    rw [List.length_cons, bits_succ, ofBits_cons, mul_comm, htop, bits_add (ofBits_lt bs), ih]

lemma length_flatMap_bits (width : Nat) (ns : List Nat) :
    (ns.flatMap (bits width)).length = width * ns.length := by
  simp [List.length_flatMap, mul_comm]

lemma chunks_of_ne_nil {α : Type} {xs : List α} (h : xs ≠ []) (size fuel : Nat) :
    chunks size (fuel + 1) xs = xs.take size :: chunks size fuel (xs.drop size) := by
  cases xs with
  | nil => exact absurd rfl h
  | cons x xs => rfl

/-- The bits of numbers are cut into the bits of each. -/
lemma chunks_flatMap_bits {width : Nat} (hwidth : 0 < width) {ns : List Nat} {fuel : Nat}
    (hfuel : ns.length ≤ fuel) : chunks width fuel (ns.flatMap (bits width)) = ns.map (bits width) := by
  induction ns generalizing fuel with
  | nil => cases fuel <;> rfl
  | cons n ns ih =>
    obtain ⟨fuel, rfl⟩ : ∃ k, fuel = k + 1 := ⟨fuel - 1, by simp at hfuel; omega⟩
    have hne : (n :: ns).flatMap (bits width) ≠ [] := by
      apply List.ne_nil_of_length_pos
      rw [length_flatMap_bits, List.length_cons]
      positivity
    rw [chunks_of_ne_nil hne, List.flatMap_cons, List.take_left' (length_bits width n),
      List.drop_left' (length_bits width n), ih (by simpa using hfuel), List.map_cons]

lemma length_le_of_mem_chunks {α : Type} {size fuel : Nat} {xs g : List α}
    (h : g ∈ chunks size fuel xs) : g.length ≤ size := by
  induction fuel generalizing xs with
  | zero => simp [chunks] at h
  | succ fuel ih =>
    cases xs with
    | nil => simp [chunks] at h
    | cons x xs =>
      rcases List.mem_cons.1 h with rfl | h
      · exact List.length_take_le _ _
      · exact ih h

/-- Nothing is left over if the size divides the length. -/
lemma length_of_mem_chunks {α : Type} {size fuel : Nat} {xs g : List α} (hsize : size ∣ xs.length)
    (h : g ∈ chunks size fuel xs) : g.length = size := by
  induction fuel generalizing xs with
  | zero => simp [chunks] at h
  | succ fuel ih =>
    cases xs with
    | nil => simp [chunks] at h
    | cons x xs =>
      rcases List.mem_cons.1 h with rfl | h
      · rw [List.length_take, Nat.min_eq_left (Nat.le_of_dvd (by simp) hsize)]
      · exact ih (by simpa using Nat.dvd_sub hsize (dvd_refl size)) h

/-- The number of zeros that fill the last piece up. -/
def fillSize (size length : Nat) : Nat := (size - length % size) % size

/-- The pieces of a row of bits, each as a number, stand for the row with the last piece filled up. -/
lemma flatMap_bits_chunks {size : Nat} (hsize : 0 < size) {xs : List Bool} {fuel : Nat}
    (hfuel : xs.length ≤ fuel) :
    ((chunks size fuel xs).map fun g =>
        ofBits (g ++ List.replicate (size - g.length) false)).flatMap (bits size) =
      xs ++ List.replicate (fillSize size xs.length) false := by
  induction fuel generalizing xs with
  | zero =>
    obtain rfl : xs = [] := List.length_eq_zero_iff.1 (by omega)
    simp [chunks, fillSize]
  | succ fuel ih =>
    by_cases hne : xs = []
    · subst hne
      simp [chunks, fillSize]
    have hpos := List.length_pos_iff.2 hne
    have hpiece (g : List Bool) (hg : g.length ≤ size) :
        bits size (ofBits (g ++ List.replicate (size - g.length) false)) =
          g ++ List.replicate (size - g.length) false := by
      have hlength : (g ++ List.replicate (size - g.length) false).length = size := by
        rw [List.length_append, List.length_replicate]
        omega
      have hbits := bits_ofBits (g ++ List.replicate (size - g.length) false)
      rwa [hlength] at hbits
    have hdrop : (xs.drop size).length ≤ fuel := by
      rw [List.length_drop]
      omega
    rw [chunks_of_ne_nil hne, List.map_cons, List.flatMap_cons, ih hdrop,
      hpiece _ (List.length_take_le _ _), List.length_take, List.length_drop]
    -- only the last piece may be short
    by_cases hwhole : size ≤ xs.length
    · have hfill : fillSize size (xs.length - size) = fillSize size xs.length := by
        rw [fillSize, fillSize, ← Nat.mod_eq_sub_mod hwhole]
      rw [Nat.min_eq_left hwhole, Nat.sub_self, List.replicate_zero, List.append_nil, hfill,
        ← List.append_assoc, List.take_append_drop]
    · have hshort : xs.length < size := by omega
      have hfill : fillSize size xs.length = size - xs.length := by
        rw [fillSize, Nat.mod_eq_of_lt hshort, Nat.mod_eq_of_lt (by omega)]
      have hrest : fillSize size 0 = 0 := by simp [fillSize]
      rw [Nat.min_eq_right hshort.le, hfill, List.take_of_length_le hshort.le,
        List.drop_of_length_le hshort.le, Nat.sub_eq_zero_of_le hshort.le, hrest]
      simp

def byteBits (b : Bytes) : List Bool := b.flatMap fun x => bits 8 x.toNat

lemma byteBits_eq (b : Bytes) : byteBits b = (b.map UInt8.toNat).flatMap (bits 8) := by
  rw [byteBits, List.flatMap_map]

lemma length_byteBits (b : Bytes) : (byteBits b).length = 8 * b.length := by
  rw [byteBits_eq, length_flatMap_bits, List.length_map]

/-- The bits of the groups of bytes. -/
lemma flatMap_bits_groups (b : Bytes) :
    (groupsOfBytes b).flatMap (bits 5) =
      byteBits b ++ List.replicate (fillSize 5 (8 * b.length)) false := by
  rw [← length_byteBits, ← flatMap_bits_chunks (by decide) (le_refl _)]
  rfl

lemma groups_lt {b : Bytes} {n : Nat} (hn : n ∈ groupsOfBytes b) : n < 32 := by
  obtain ⟨g, hg, rfl⟩ := List.mem_map.1 hn
  have hlength := length_le_of_mem_chunks hg
  refine (ofBits_lt _).trans_eq ?_
  rw [List.length_append, List.length_replicate, Nat.add_sub_of_le hlength]
  rfl

def bytesOfBits (whole : List Bool) : Bytes :=
  (chunks 8 whole.length whole).map fun g => UInt8.ofNat (ofBits g)

lemma bytesOfBits_byteBits (b : Bytes) : bytesOfBits (byteBits b) = b := by
  have hfuel : (b.map UInt8.toNat).length ≤ (byteBits b).length := by
    rw [length_byteBits, List.length_map]
    omega
  have hchunks := @chunks_flatMap_bits 8 (by decide) _ _ hfuel
  rw [← byteBits_eq] at hchunks
  rw [bytesOfBits, hchunks, List.map_map, List.map_map]
  refine map_eq_self fun x _ => ?_
  have hx : x.toNat % 2 ^ 8 = x.toNat := Nat.mod_eq_of_lt x.toNat_lt
  simp only [Function.comp_apply, ofBits_bits, hx, UInt8.ofNat_toNat]

lemma byteBits_bytesOfBits {whole : List Bool} (h : 8 ∣ whole.length) :
    byteBits (bytesOfBits whole) = whole := by
  have hchunks := flatMap_bits_chunks (by decide : 0 < 8) (le_refl whole.length)
  have hfill : fillSize 8 whole.length = 0 := by rw [fillSize, Nat.mod_eq_zero_of_dvd h]
  rw [hfill, List.replicate_zero, List.append_nil, List.flatMap_map] at hchunks
  conv_rhs => rw [← hchunks]
  rw [byteBits, bytesOfBits, List.flatMap_map]
  refine List.flatMap_congr fun g hg => ?_
  have hlength := length_of_mem_chunks h hg
  have hlt : ofBits g < 256 := (ofBits_lt g).trans_eq (by rw [hlength]; rfl)
  rw [hlength, Nat.sub_self, List.replicate_zero, List.append_nil, UInt8.toNat_ofNat_of_lt' hlt]

/-- Groups are read as the bytes that their bits begin with, if fewer than five zeros follow. -/
lemma bytesOfGroups_eq_ok {gs : List Nat} {b : Bytes} :
    bytesOfGroups gs = .ok b ↔
      ∃ r < 5, gs.flatMap (bits 5) = byteBits b ++ List.replicate r false := by
  constructor
  · intro h
    simp only [bytesOfGroups] at h
    split at h
    case isFalse => exact absurd h (by simp)
    case isTrue hrest =>
      obtain ⟨hshort, hzero⟩ := hrest
      generalize gs.flatMap (bits 5) = all at *
      have hwhole : 8 ∣ (all.take (all.length / 8 * 8)).length := by
        rw [List.length_take, Nat.min_eq_left (Nat.div_mul_le_self _ _)]
        exact dvd_mul_left 8 _
      have hb : bytesOfBits (all.take (all.length / 8 * 8)) = b := Except.ok.inj h
      refine ⟨_, hshort, ?_⟩
      have hfalse : all.drop (all.length / 8 * 8) =
          List.replicate (all.drop (all.length / 8 * 8)).length false := by
        apply List.eq_replicate_of_mem
        intro x hx
        simpa using List.all_eq_true.1 hzero x hx
      rw [← hb, byteBits_bytesOfBits hwhole, ← hfalse, List.take_append_drop]
  · rintro ⟨r, hr, hbits⟩
    have hlength : (byteBits b ++ List.replicate r false).length / 8 * 8 = (byteBits b).length := by
      rw [List.length_append, List.length_replicate, length_byteBits]
      omega
    have hread := bytesOfBits_byteBits b
    rw [bytesOfBits] at hread
    simp only [bytesOfGroups, hbits, hlength, List.take_left, List.drop_left, hread]
    simp [hr]

/-- Groups are determined by their bits. -/
lemma flatMap_bits_injective {width : Nat} (hwidth : 0 < width) {ms ns : List Nat}
    (hm : ∀ n ∈ ms, n < 2 ^ width) (hn : ∀ n ∈ ns, n < 2 ^ width)
    (h : ms.flatMap (bits width) = ns.flatMap (bits width)) : ms = ns := by
  have hback {ls : List Nat} (hls : ∀ n ∈ ls, n < 2 ^ width) :
      (ls.map (bits width)).map ofBits = ls := by
    rw [List.map_map]
    refine map_eq_self fun n hn => ?_
    rw [Function.comp_apply, ofBits_bits, Nat.mod_eq_of_lt (hls n hn)]
  have hms := chunks_flatMap_bits hwidth (Nat.le_max_left ms.length ns.length)
  have hns := chunks_flatMap_bits hwidth (Nat.le_max_right ms.length ns.length)
  rw [← hback hm, ← hback hn, ← hms, ← hns, h]

/-- Groups are read as bytes only if they are the groups of the bytes. -/
lemma bytesOfGroups_iff {gs : List Nat} (hgs : ∀ n ∈ gs, n < 32) {b : Bytes} :
    bytesOfGroups gs = .ok b ↔ gs = groupsOfBytes b := by
  rw [bytesOfGroups_eq_ok]
  constructor
  · rintro ⟨r, hr, hbits⟩
    apply flatMap_bits_injective (by decide : 0 < 5) hgs fun n => groups_lt
    -- the number of bits leaves one number of zeros below five
    have hlength := congrArg List.length hbits
    have hgroups := congrArg List.length (flatMap_bits_groups b)
    simp only [length_flatMap_bits, List.length_append, length_byteBits, List.length_replicate]
      at hlength hgroups
    have hfill : fillSize 5 (8 * b.length) < 5 := Nat.mod_lt _ (by decide)
    have hr' : r = fillSize 5 (8 * b.length) := by omega
    rw [hbits, flatMap_bits_groups, hr']
  · rintro rfl
    exact ⟨_, Nat.mod_lt _ (by decide), flatMap_bits_groups b⟩

end CosmosClient.Proofs
