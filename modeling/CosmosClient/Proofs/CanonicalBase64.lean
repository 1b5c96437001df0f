import Mathlib
import CosmosClient.Proofs.Base64Text
import CosmosClient.Proofs.BitGroups

/-!
# Canonical Base64

A text is the canonical Base64 of bytes if its characters stand for their bits six by six, the last
ones filled up with zeros, and padding fills its last group of four. The canonical text of bytes is the
one that is written, and the only one that a reader with padding takes for them.
-/

namespace CosmosClient.Base64

def alphabet : List Char :=
  "ABCDEFGHIJKLMNOPQRSTUVWXYZabcdefghijklmnopqrstuvwxyz0123456789+/".toList

/-- A text of characters for six bits each and `p` characters of padding, where each of these makes up
for two zeros behind the bits of the bytes. -/
def Canonical (cs : List Char) (b : Bytes) : Prop :=
  ∃ body ns p, cs = body ++ List.replicate p '=' ∧ cs.length % 4 = 0 ∧ p < 3 ∧
    List.Forall₂ (fun c n => alphabet[n]? = some c) body ns ∧
    ns.flatMap (Bech32.bits 6) = Proofs.byteBits b ++ List.replicate (2 * p) false

end CosmosClient.Base64

namespace CosmosClient.Proofs
open Base64
open Bech32 (bits)

/-- The bits above a place and those below it. -/
lemma bits_append (m n x : Nat) : bits (m + n) x = bits m (x / 2 ^ n) ++ bits n x := by
  induction m with
  | zero => simp [bits]
  | succ m ih =>
    rw [Nat.add_right_comm, bits_succ, bits_succ, ih, Nat.testBit_div_two_pow, List.cons_append]

lemma bits_mod (width n : Nat) : bits width (n % 2 ^ width) = bits width n := by
  conv_rhs => rw [← Nat.div_add_mod n (2 ^ width)]
  exact (bits_add (Nat.mod_lt _ (by positivity)) _).symm

/-- A number that is put together from the last bits of one number and all bits of another. -/
lemma bits_join (m : Nat) {n y : Nat} (hy : y < 2 ^ n) (x : Nat) :
    bits (m + n) (x % 2 ^ m * 2 ^ n + y) = bits m x ++ bits n y := by
  have hhigh : (x % 2 ^ m * 2 ^ n + y) / 2 ^ n = x % 2 ^ m := by
    rw [Nat.mul_comm, Nat.mul_add_div (by positivity), Nat.div_eq_of_lt hy, Nat.add_zero]
  have hlow : bits n (x % 2 ^ m * 2 ^ n + y) = bits n y := by
    rw [Nat.mul_comm, bits_add hy]
  rw [bits_append, hhigh, bits_mod, hlow]

lemma flatMap_bits_sextets (b : Bytes) :
    (sextets b).flatMap (bits 6) =
      byteBits b ++ List.replicate (2 * paddingSize b.length) false := by
  have hfirst (a : UInt8) : bits 8 a.toNat = bits 6 (a.toNat / 4) ++ bits 2 a.toNat :=
    bits_append 6 2 _
  have hsecond (b : UInt8) : bits 8 b.toNat = bits 4 (b.toNat / 16) ++ bits 4 b.toNat :=
    bits_append 4 4 _
  have hthird (c : UInt8) : bits 8 c.toNat = bits 2 (c.toNat / 64) ++ bits 6 c.toNat :=
    bits_append 2 6 _
  have htwo (a : UInt8) {n : Nat} (hn : n < 16) :
      bits 6 (a.toNat % 4 * 16 + n) = bits 2 a.toNat ++ bits 4 n := bits_join (n := 4) 2 hn _
  have hfour (b : UInt8) {n : Nat} (hn : n < 4) :
      bits 6 (b.toNat % 16 * 4 + n) = bits 4 b.toNat ++ bits 2 n := bits_join (n := 2) 4 hn _
  induction b using sextets.induct with
  | case1 => rfl
  | case2 a =>
    have hsplit := htwo a (by decide : 0 < 16)
    rw [Nat.add_zero] at hsplit
    simp only [sextets, byteBits, List.flatMap_cons, List.flatMap_nil, hsplit, hfirst a,
      List.append_assoc, List.append_nil]
    rfl
  | case3 a b =>
    have hb : b.toNat / 16 < 16 := by
      have hlt := b.toNat_lt
      omega
    have hsplit := hfour b (by decide : 0 < 4)
    rw [Nat.add_zero] at hsplit
    simp only [sextets, byteBits, List.flatMap_cons, List.flatMap_nil, htwo a hb, hsplit, hfirst a,
      hsecond b, List.append_assoc, List.append_nil]
    rfl
  | case4 a b c rest ih =>
    have hb : b.toNat / 16 < 16 := by
      have hlt := b.toNat_lt
      omega
    have hc : c.toNat / 64 < 4 := by
      have hlt := c.toNat_lt
      omega
    have hlast : bits 6 (c.toNat % 64) = bits 6 c.toNat := bits_mod 6 _
    have hpad : paddingSize (a :: b :: c :: rest).length = paddingSize rest.length := by
      simp only [paddingSize, List.length_cons]
      omega
    rw [byteBits] at ih
    simp only [sextets, byteBits, List.flatMap_cons, htwo a hb, hfour b hc, hlast, ih, hpad, hfirst a,
      hsecond b, hthird c, List.append_assoc]

lemma alphabet_symbol : ∀ n < 64, alphabet[n]? = some (symbol n) := by
  decide

lemma alphabet_eq_some {n : Nat} {c : Char} : alphabet[n]? = some c ↔ n < 64 ∧ symbol n = c := by
  constructor
  · intro h
    have hn : n < 64 := (List.getElem?_eq_some_iff.1 h).1
    rw [alphabet_symbol n hn] at h
    exact ⟨hn, Option.some.inj h⟩
  · rintro ⟨hn, rfl⟩
    exact alphabet_symbol n hn

lemma forall₂_alphabet {body : List Char} {ns : List Nat} :
    List.Forall₂ (fun c n => alphabet[n]? = some c) body ns ↔
      (∀ n ∈ ns, n < 64) ∧ body = ns.map symbol := by
  induction ns generalizing body with
  | nil => simp
  | cons n ns ih =>
    rw [List.forall₂_cons_right_iff, List.forall_mem_cons, List.map_cons]
    constructor
    · rintro ⟨c, body, hc, hbody, rfl⟩
      obtain ⟨hn, rfl⟩ := alphabet_eq_some.1 hc
      obtain ⟨hns, rfl⟩ := ih.1 hbody
      exact ⟨⟨hn, hns⟩, rfl⟩
    · rintro ⟨⟨hn, hns⟩, rfl⟩
      exact ⟨_, _, alphabet_symbol n hn, ih.2 ⟨hns, rfl⟩, rfl⟩

lemma length_chars_mod (b : Bytes) : (chars b).length % 4 = 0 := by
  have hp : paddingSize b.length < 3 := Nat.mod_lt _ (by decide)
  have hmod := sextets_length_mod b
  rw [chars_eq, List.length_append, List.length_map, List.length_replicate]
  omega

lemma canonical_chars (b : Bytes) : Canonical (chars b) b :=
  ⟨(sextets b).map symbol, sextets b, paddingSize b.length, chars_eq b, length_chars_mod b,
    Nat.mod_lt _ (by decide), forall₂_alphabet.2 ⟨sextets_lt b, rfl⟩, flatMap_bits_sextets b⟩

lemma canonical_iff {cs : List Char} {b : Bytes} : Canonical cs b ↔ cs = chars b := by
  constructor
  · rintro ⟨body, ns, p, rfl, -, hp, hbody, hbits⟩
    obtain ⟨hns, rfl⟩ := forall₂_alphabet.1 hbody
    -- the number of bits leaves one number of padding characters below three
    have hlength := congrArg List.length hbits
    have hsextets := congrArg List.length (flatMap_bits_sextets b)
    simp only [length_flatMap_bits, List.length_append, length_byteBits, List.length_replicate]
      at hlength hsextets
    have hpadding : paddingSize b.length < 3 := Nat.mod_lt _ (by decide)
    obtain rfl : p = paddingSize b.length := by omega
    rw [← flatMap_bits_sextets] at hbits
    rw [flatMap_bits_injective (by decide) hns (sextets_lt b) hbits, chars_eq]
  · rintro rfl
    exact canonical_chars b

lemma value?_eq_some_base64 {c : Char} {n : Nat} : value? c = some n ↔ n < 64 ∧ symbol n = c := by
  constructor
  · intro h
    have hchar {k : Nat} (hk : k = c.toNat) : Char.ofNat k = c := by rw [hk, Char.ofNat_toNat]
    dsimp only [value?] at h
    split_ifs at h with hupper hlower hdigit hplus hslash
    · obtain rfl := Option.some.inj h
      refine ⟨by omega, ?_⟩
      rw [symbol, if_pos (by omega)]
      exact hchar (by omega)
    · obtain rfl := Option.some.inj h
      refine ⟨by omega, ?_⟩
      rw [symbol, if_neg (by omega), if_pos (by omega)]
      exact hchar (by omega)
    · obtain rfl := Option.some.inj h
      refine ⟨by omega, ?_⟩
      rw [symbol, if_neg (by omega), if_neg (by omega), if_pos (by omega)]
      exact hchar (by omega)
    · obtain rfl := Option.some.inj h
      exact ⟨by decide, hplus.symm⟩
    · obtain rfl := Option.some.inj h
      exact ⟨by decide, hslash.symm⟩
  · rintro ⟨hn, rfl⟩
    exact value?_symbol n hn

lemma mapM_value?_eq_some {cs : List Char} {ns : List Nat} :
    cs.mapM value? = some ns ↔ (∀ n ∈ ns, n < 64) ∧ cs = ns.map symbol := by
  constructor
  · intro h
    induction cs generalizing ns with
    | nil =>
      obtain rfl := Option.some.inj h
      simp
    | cons c cs ih =>
      rw [List.mapM_cons] at h
      obtain ⟨n, hn, h⟩ := Option.bind_eq_some_iff.1 h
      obtain ⟨ms, hms, h⟩ := Option.bind_eq_some_iff.1 h
      obtain rfl := Option.some.inj h
      obtain ⟨hlt, rfl⟩ := value?_eq_some_base64.1 hn
      obtain ⟨hall, rfl⟩ := ih hms
      exact ⟨List.forall_mem_cons.2 ⟨hlt, hall⟩, rfl⟩
  · rintro ⟨hns, rfl⟩
    exact mapM_value?_symbol hns

/-- Numbers of six bits are taken for bytes only if they are the numbers of these. -/
lemma eq_sextets_of_bytes? {ns : List Nat} {b : Bytes} (hns : ∀ n ∈ ns, n < 64)
    (h : bytes? ns = some b) : ns = sextets b := by
  have hbyte {x : Nat} (hx : x < 256) : (UInt8.ofNat x).toNat = x := UInt8.toNat_ofNat_of_lt' hx
  induction ns using bytes?.induct generalizing b with
  | case1 =>
    obtain rfl := Option.some.inj h
    rfl
  | case2 => simp [bytes?] at h
  | case3 m n hn =>
    simp only [List.mem_cons, List.not_mem_nil, or_false, forall_eq_or_imp, forall_eq] at hns
    rw [bytes?, if_pos hn] at h
    obtain rfl := Option.some.inj h
    have hfirst : m * 4 + n / 16 < 256 := by omega
    rw [sextets, hbyte hfirst]
    simp only [List.cons.injEq, and_true]
    omega
  | case4 m n hn => simp [bytes?, hn] at h
  | case5 m n k hk =>
    simp only [List.mem_cons, List.not_mem_nil, or_false, forall_eq_or_imp, forall_eq] at hns
    rw [bytes?, if_pos hk] at h
    obtain rfl := Option.some.inj h
    have hfirst : m * 4 + n / 16 < 256 := by omega
    have hsecond : n % 16 * 16 + k / 4 < 256 := by omega
    rw [sextets, hbyte hfirst, hbyte hsecond]
    simp only [List.cons.injEq, and_true]
    omega
  | case6 m n k hk => simp [bytes?, hk] at h
  | case7 m n k l rest ih =>
    simp only [List.mem_cons, forall_eq_or_imp] at hns
    obtain ⟨hm, hn, hk, hl, hrest⟩ := hns
    rw [bytes?] at h
    obtain ⟨more, hmore, h⟩ := Option.bind_eq_some_iff.1 h
    obtain rfl := Option.some.inj h
    have hfirst : m * 4 + n / 16 < 256 := by omega
    have hsecond : n % 16 * 16 + k / 4 < 256 := by omega
    have hthird : k % 4 * 64 + l < 256 := by omega
    rw [sextets, hbyte hfirst, hbyte hsecond, hbyte hthird, ← ih hrest hmore]
    simp only [List.cons.injEq, and_true]
    omega

/-- What is dropped of a text of whole groups is the padding that fills its last group up. -/
lemma dropPadding_spec {cs : List Char} (h : cs.length % 4 = 0) :
    ∃ p < 3, cs = dropPadding cs ++ List.replicate p '=' ∧
      (dropPadding cs).length % 4 = (4 - p) % 4 := by
  have hlength : cs.reverse.length = cs.length := List.length_reverse
  unfold dropPadding
  split
  next back hback =>
    have hcs : cs = back.reverse ++ ['=', '='] := by simpa using congrArg List.reverse hback
    rw [hback] at hlength
    simp only [List.length_cons] at hlength
    rw [if_pos (by omega)]
    exact ⟨2, by decide, hcs, by rw [List.length_reverse]; omega⟩
  next back _ hback =>
    have hcs : cs = back.reverse ++ ['='] := by simpa using congrArg List.reverse hback
    rw [hback] at hlength
    simp only [List.length_cons] at hlength
    rw [if_pos (by omega)]
    exact ⟨1, by decide, hcs, by rw [List.length_reverse]; omega⟩
  next => exact ⟨0, by decide, (List.append_nil cs).symm, h⟩

/-- A reader with padding takes the written text of bytes, and no other, for them. -/
lemma readCanonical?_eq_some {cs : List Char} {b : Bytes} :
    readCanonical? cs = some b ↔ cs = chars b := by
  constructor
  · intro h
    rw [readCanonical?] at h
    split at h
    next hlength =>
      obtain ⟨ns, hns, hbytes⟩ := Option.bind_eq_some_iff.1 h
      obtain ⟨hlt, hsymbols⟩ := mapM_value?_eq_some.1 hns
      obtain rfl := eq_sextets_of_bytes? hlt hbytes
      obtain ⟨p, hp, hcs, hmod⟩ := dropPadding_spec hlength
      -- the number of characters leaves one number of padding characters below three
      have hsextets := sextets_length_mod b
      have hpadding : paddingSize b.length < 3 := Nat.mod_lt _ (by decide)
      rw [hsymbols, List.length_map] at hmod
      obtain rfl : p = paddingSize b.length := by omega
      rw [hcs, hsymbols, chars_eq]
    next => simp at h
  · rintro rfl
    exact readCanonical?_chars b

/-- A text with its padding is read as the bytes of which it is the canonical text. -/
theorem readCanonical_eq_ok {s : String} {b : Bytes} :
    readCanonical s = .ok b ↔ Canonical s.toList b := by
  rw [readCanonical, canonical_iff, ← readCanonical?_eq_some]
  cases readCanonical? s.toList <;> simp

end CosmosClient.Proofs
