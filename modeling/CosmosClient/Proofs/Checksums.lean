import Mathlib
import CosmosClient.Text.Bech32

/-!
# The checksum of Bech32

A checksum takes in one group after another, and a difference in what it has taken in so far moves up
by five bits with each group as long as it does not reach the five bits on top. So six groups at the
end change the checksum by the number that they are the digits of, and there are exactly six groups
that bring it to a given constant.
-/

namespace CosmosClient.Proofs
open Bech32

/-- What the bits on top of a checksum contribute to the next one. -/
def feedback (c : Nat) : Nat :=
  generators.zipIdx.foldl (fun acc (g, i) => if (c >>> (25 + i)) % 2 = 1 then acc ^^^ g else acc) 0

lemma foldl_xor (c : Nat) (terms : List (Nat × Nat)) (a : Nat) :
    terms.foldl (fun acc (g, i) => if (c >>> (25 + i)) % 2 = 1 then acc ^^^ g else acc) a =
      a ^^^ terms.foldl
        (fun acc (g, i) => if (c >>> (25 + i)) % 2 = 1 then acc ^^^ g else acc) 0 := by
  induction terms generalizing a with
  | nil => simp
  | cons term terms ih =>
    simp only [List.foldl_cons]
    split
    · rw [ih, ih (0 ^^^ term.1), Nat.zero_xor, Nat.xor_assoc]
    · exact ih a

lemma step_eq (c v : Nat) : step c v = ((c % 2 ^ 25) <<< 5) ^^^ v ^^^ feedback c := by
  rw [step, foldl_xor]
  rfl

lemma feedback_lt (c : Nat) : feedback c < 2 ^ 30 := by
  have hgenerators : ∀ term ∈ generators.zipIdx, term.1 < 2 ^ 30 := by decide
  refine List.foldlRecOn (motive := fun acc => acc < 2 ^ 30) generators.zipIdx _ (by decide) ?_
  intro acc hacc term hterm
  dsimp only
  split
  · exact Nat.xor_lt_two_pow hacc (hgenerators term hterm)
  · exact hacc

lemma step_lt (c : Nat) {v : Nat} (hv : v < 32) : step c v < 2 ^ 30 := by
  have hmod : c % 2 ^ 25 < 2 ^ 25 := Nat.mod_lt _ (by decide)
  have hshift : (c % 2 ^ 25) <<< 5 < 2 ^ 30 := by
    rw [Nat.shiftLeft_eq]
    omega
  rw [step_eq]
  exact Nat.xor_lt_two_pow (Nat.xor_lt_two_pow hshift (by omega)) (feedback_lt c)

lemma feedback_xor (c : Nat) {d : Nat} (hd : d < 2 ^ 25) : feedback (c ^^^ d) = feedback c := by
  have htop (i : Nat) : (c ^^^ d) >>> (25 + i) = c >>> (25 + i) := by
    have hzero : d >>> (25 + i) = 0 := by
      rw [Nat.shiftRight_eq_div_pow]
      exact Nat.div_eq_of_lt (hd.trans_le (Nat.pow_le_pow_right (by decide) (by omega)))
    rw [Nat.shiftRight_xor_distrib, hzero, Nat.xor_zero]
  simp only [feedback, htop]

/-- A difference below the five bits on top moves up by five bits. -/
lemma step_xor (c : Nat) {d : Nat} (hd : d < 2 ^ 25) {v : Nat} (hv : v < 32) :
    step (c ^^^ d) v = step c 0 ^^^ (32 * d + v) := by
  have hmoved : 32 * d + v = d <<< 5 ^^^ v := by
    apply Nat.eq_of_testBit_eq
    intro i
    rw [show 32 = 2 ^ 5 from rfl, Nat.testBit_two_pow_mul_add d hv, Nat.testBit_xor,
      Nat.testBit_shiftLeft]
    by_cases hi : i < 5
    · simp [hi, not_le.2 hi]
    · have hzero : v.testBit i = false :=
        Nat.testBit_lt_two_pow (hv.trans_le (Nat.pow_le_pow_right (n := 2) (by decide) (not_lt.1 hi)))
      simp [hi, not_lt.1 hi, hzero]
  have hmod : (c ^^^ d) % 2 ^ 25 = (c % 2 ^ 25) ^^^ d := by
    rw [Nat.xor_mod_two_pow, Nat.mod_eq_of_lt hd]
  rw [step_eq, step_eq, feedback_xor c hd, hmod, hmoved, Nat.shiftLeft_xor_distrib]
  generalize (c % 2 ^ 25) <<< 5 = a
  generalize d <<< 5 = b
  generalize feedback c = f
  rw [Nat.xor_zero]
  ac_rfl

/-- The number whose digits are groups. -/
def ofGroups (gs : List Nat) : Nat := gs.foldl (fun n g => 32 * n + g) 0

/-- The digits of a number, as groups. -/
def sixGroups (n : Nat) : List Nat := (List.range 6).map fun i => (n >>> (5 * (5 - i))) % 32

lemma sixGroups_eq (n : Nat) : sixGroups n = [n / 2 ^ 25 % 32, n / 2 ^ 20 % 32, n / 2 ^ 15 % 32,
    n / 2 ^ 10 % 32, n / 2 ^ 5 % 32, n % 32] := by
  simp [sixGroups, List.range_succ, Nat.shiftRight_eq_div_pow]

lemma sixGroups_ofGroups {gs : List Nat} (hlength : gs.length = 6) (hgs : ∀ g ∈ gs, g < 32) :
    sixGroups (ofGroups gs) = gs := by
  match gs, hlength with
  | [a, b, c, d, e, f], _ =>
    simp only [List.mem_cons, List.not_mem_nil, or_false, forall_eq_or_imp, forall_eq] at hgs
    simp only [sixGroups_eq, ofGroups, List.foldl_cons, List.foldl_nil, List.cons.injEq, and_true]
    omega

lemma ofGroups_sixGroups {n : Nat} (hn : n < 2 ^ 30) : ofGroups (sixGroups n) = n := by
  simp only [sixGroups_eq, ofGroups, List.foldl_cons, List.foldl_nil]
  omega

lemma length_checksumGroups (variant : Variant) (hrp : List Char) (groups : List Nat) :
    (checksumGroups variant hrp groups).length = 6 := rfl

lemma checksumGroups_lt {variant : Variant} {hrp : List Char} {groups : List Nat} {g : Nat}
    (hg : g ∈ checksumGroups variant hrp groups) : g < 32 := by
  obtain ⟨i, -, rfl⟩ := List.mem_map.1 hg
  exact Nat.mod_lt _ (by decide)

/-- Up to six groups change a checksum by the number that they are the digits of. -/
lemma foldl_step_xor (c : Nat) {gs : List Nat} (hgs : ∀ g ∈ gs, g < 32) {k d : Nat}
    (hd : d < 2 ^ (5 * k)) (hk : k + gs.length ≤ 6) :
    gs.foldl step (c ^^^ d) =
      (List.replicate gs.length 0).foldl step c ^^^ gs.foldl (fun n g => 32 * n + g) d := by
  -- `k` counts the digits of `d`: with six at most the five bits on top are not reached
  induction gs generalizing c d k with
  | nil => rfl
  | cons g gs ih =>
    rw [List.length_cons] at hk
    have hg : g < 32 := hgs g (by simp)
    have hd' : d < 2 ^ 25 := hd.trans_le (Nat.pow_le_pow_right (by decide) (by omega))
    have hnext : 32 * d + g < 2 ^ (5 * (k + 1)) := by
      rw [Nat.mul_add, Nat.pow_add]
      omega
    rw [List.foldl_cons, step_xor c hd' hg, ih (step c 0) (fun x hx => hgs x (by simp [hx])) hnext
      (by omega)]
    rfl

/-- The checksum of a text has a constant just if its last six groups are the ones for it. -/
lemma checksum_eq_iff (variant : Variant) (hrp : List Char) {payload sum : List Nat}
    (hlength : sum.length = 6) (hsum : ∀ g ∈ sum, g < 32) :
    checksum (expand hrp ++ (payload ++ sum)) = variant.constant ↔
      sum = checksumGroups variant hrp payload := by
  generalize hc : (expand hrp ++ payload).foldl step 1 = c
  have hresidue : checksum (expand hrp ++ payload ++ [0, 0, 0, 0, 0, 0]) =
      (List.replicate 6 0).foldl step c := by
    rw [checksum, List.foldl_append, hc]
    rfl
  have hwhole : checksum (expand hrp ++ (payload ++ sum)) =
      (List.replicate 6 0).foldl step c ^^^ ofGroups sum := by
    have hxor := foldl_step_xor c hsum (k := 0) (d := 0) (by decide) (by omega)
    rw [Nat.xor_zero, hlength] at hxor
    rw [checksum, ← List.append_assoc, List.foldl_append, hc, hxor]
    rfl
  have hgroups : checksumGroups variant hrp payload =
      sixGroups ((List.replicate 6 0).foldl step c ^^^ variant.constant) := by
    rw [← hresidue]
    rfl
  have hlt : (List.replicate 6 0).foldl step c ^^^ variant.constant < 2 ^ 30 :=
    Nat.xor_lt_two_pow (step_lt _ (by decide)) (by cases variant <;> decide)
  rw [hwhole, hgroups]
  generalize (List.replicate 6 0).foldl step c = residue at *
  constructor
  · intro h
    rw [← h, ← Nat.xor_assoc, Nat.xor_self, Nat.zero_xor, sixGroups_ofGroups hlength hsum]
  · rintro rfl
    rw [ofGroups_sixGroups hlt, ← Nat.xor_assoc, Nat.xor_self, Nat.zero_xor]

end CosmosClient.Proofs
