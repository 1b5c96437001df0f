import Mathlib
import CosmosClient.Text.Base64
import CosmosClient.Text.Basic

/-!
# Base64 read back

The text of bytes is read back with its padding, also from between blanks.
-/

namespace CosmosClient.Proofs
open Base64

/-- The numbers of the characters of a Base64 text without its padding. -/
def sextets : Bytes → List Nat
  | [] => []
  | [a] => [a.toNat / 4, a.toNat % 4 * 16]
  | [a, b] => [a.toNat / 4, a.toNat % 4 * 16 + b.toNat / 16, b.toNat % 16 * 4]
  | a :: b :: c :: rest =>
    a.toNat / 4 :: (a.toNat % 4 * 16 + b.toNat / 16) ::
      (b.toNat % 16 * 4 + c.toNat / 64) :: c.toNat % 64 :: sextets rest

/-- The number of padding characters of the Base64 text of a number of bytes. -/
def paddingSize (n : Nat) : Nat := (3 - n % 3) % 3

lemma chars_eq (b : Bytes) :
    chars b = (sextets b).map symbol ++ List.replicate (paddingSize b.length) '=' := by
  induction b using sextets.induct with
  | case1 => rfl
  | case2 a => rfl
  | case3 a b => rfl
  | case4 a b c rest ih =>
    have hpad : paddingSize (a :: b :: c :: rest).length = paddingSize rest.length := by
      simp only [paddingSize, List.length_cons]
      omega
    rw [hpad, chars, sextets, ih]
    rfl

lemma sextets_lt (b : Bytes) : ∀ n ∈ sextets b, n < 64 := by
  induction b using sextets.induct with
  | case1 => simp [sextets]
  | case2 a =>
    have ha := a.toNat_lt
    simp only [sextets, List.mem_cons, List.not_mem_nil, or_false, forall_eq_or_imp, forall_eq]
    omega
  | case3 a b =>
    have ha := a.toNat_lt
    have hb := b.toNat_lt
    simp only [sextets, List.mem_cons, List.not_mem_nil, or_false, forall_eq_or_imp, forall_eq]
    omega
  | case4 a b c rest ih =>
    have ha := a.toNat_lt
    have hb := b.toNat_lt
    have hc := c.toNat_lt
    simp only [sextets, List.mem_cons, forall_eq_or_imp]
    exact ⟨by omega, by omega, by omega, by omega, ih⟩

lemma sextets_length_mod (b : Bytes) :
    (sextets b).length % 4 = (4 - paddingSize b.length) % 4 := by
  induction b using sextets.induct with
  | case1 => rfl
  | case2 a => rfl
  | case3 a b => rfl
  | case4 a b c rest ih =>
    simp only [sextets, List.length_cons, paddingSize] at ih ⊢
    omega

lemma bytes?_sextets (b : Bytes) : bytes? (sextets b) = some b := by
  induction b using sextets.induct with
  | case1 => rfl
  | case2 a =>
    have ha := a.toNat_lt
    have hfirst : a.toNat / 4 * 4 + a.toNat % 4 * 16 / 16 = a.toNat := by omega
    simp only [sextets, bytes?, hfirst, UInt8.ofNat_toNat]
    rw [if_pos (by omega)]
  | case3 a b =>
    have ha := a.toNat_lt
    have hb := b.toNat_lt
    have hfirst : a.toNat / 4 * 4 + (a.toNat % 4 * 16 + b.toNat / 16) / 16 = a.toNat := by omega
    have hsecond : (a.toNat % 4 * 16 + b.toNat / 16) % 16 * 16 + b.toNat % 16 * 4 / 4 = b.toNat := by
      omega
    simp only [sextets, bytes?, hfirst, hsecond, UInt8.ofNat_toNat]
    rw [if_pos (by omega)]
  | case4 a b c rest ih =>
    have ha := a.toNat_lt
    have hb := b.toNat_lt
    have hc := c.toNat_lt
    have hfirst : a.toNat / 4 * 4 + (a.toNat % 4 * 16 + b.toNat / 16) / 16 = a.toNat := by omega
    have hsecond : (a.toNat % 4 * 16 + b.toNat / 16) % 16 * 16 +
        (b.toNat % 16 * 4 + c.toNat / 64) / 4 = b.toNat := by omega
    have hthird : (b.toNat % 16 * 4 + c.toNat / 64) % 4 * 64 + c.toNat % 64 = c.toNat := by omega
    simp only [sextets, bytes?, ih, hfirst, hsecond, hthird, UInt8.ofNat_toNat]
    rfl

lemma value?_symbol : ∀ n < 64, value? (symbol n) = some n := by
  decide

lemma symbol_ne_padding : ∀ n < 64, symbol n ≠ '=' := by
  decide

lemma symbol_not_blank : ∀ n < 64, Text.isBlank (symbol n) = false := by
  decide

lemma mapM_value?_symbol {ns : List Nat} (h : ∀ n ∈ ns, n < 64) :
    (ns.map symbol).mapM value? = some ns := by
  induction ns with
  | nil => rfl
  | cons n ns ih =>
    rw [List.map_cons, List.mapM_cons, value?_symbol n (h n (by simp)),
      ih fun m hm => h m (by simp [hm])]
    rfl

lemma dropPadding_append {cs : List Char} {p : Nat} (hp : p < 3)
    (hlen : cs.length % 4 = (4 - p) % 4) (h : ∀ c ∈ cs, c ≠ '=') :
    dropPadding (cs ++ List.replicate p '=') = cs := by
  have hlast : ∀ back, cs.reverse ≠ '=' :: back := by
    intro back hb
    exact h '=' (by rw [← List.mem_reverse, hb]; simp) rfl
  unfold dropPadding
  match p, hp with
  | 0, _ =>
    rw [List.replicate_zero, List.append_nil]
    split
    · exact absurd ‹_› (hlast _)
    · exact absurd ‹_› (hlast _)
    · rfl
  | 1, _ =>
    have hmod : 2 ≤ cs.length % 4 := by omega
    simp only [List.replicate_one, List.reverse_append, List.reverse_singleton,
      List.singleton_append]
    cases hr : cs.reverse with
    | nil =>
      rw [List.reverse_eq_nil_iff.1 hr] at hmod
      exact absurd hmod (by decide)
    | cons c back =>
      have hback : 2 ≤ (c :: back).length % 4 := by rwa [← hr, List.length_reverse]
      rw [if_pos hback, ← hr, List.reverse_reverse]
  | 2, _ =>
    have hmod : cs.length % 4 = 2 := by omega
    simp only [List.replicate_succ, List.replicate_zero, List.reverse_append, List.reverse_cons,
      List.reverse_nil, List.nil_append, List.cons_append, List.length_reverse, hmod, if_true,
      List.reverse_reverse]

lemma readCanonical?_chars (b : Bytes) : readCanonical? (chars b) = some b := by
  have hlt := sextets_lt b
  have hp : paddingSize b.length < 3 := Nat.mod_lt _ (by decide)
  have hmod := sextets_length_mod b
  have hlen : (chars b).length % 4 = 0 := by
    rw [chars_eq, List.length_append, List.length_map, List.length_replicate]
    omega
  have hdrop : dropPadding (chars b) = (sextets b).map symbol := by
    rw [chars_eq]
    apply dropPadding_append hp (by rw [List.length_map, hmod])
    intro c hc
    obtain ⟨n, hn, rfl⟩ := List.mem_map.1 hc
    exact symbol_ne_padding n (hlt n hn)
  rw [readCanonical?, if_pos hlen, readUnpadded?, hdrop, unpadded?, mapM_value?_symbol hlt]
  exact bytes?_sextets b

lemma readCanonical_write (b : Bytes) : readCanonical (write b) = .ok b := by
  rw [readCanonical, write, String.toList_ofList, readCanonical?_chars]

lemma chars_not_blank (b : Bytes) : ∀ c ∈ chars b, Text.isBlank c = false := by
  intro c hc
  rw [chars_eq] at hc
  rcases List.mem_append.1 hc with hc | hc
  · obtain ⟨n, hn, rfl⟩ := List.mem_map.1 hc
    exact symbol_not_blank n (sextets_lt b n hn)
  · rw [(List.mem_replicate.1 hc).2]
    decide

lemma dropWhile_blank {before cs : List Char} (hb : ∀ c ∈ before, Text.isBlank c)
    (hcs : ∀ c ∈ cs, Text.isBlank c = false) (after : List Char) :
    (before ++ cs ++ after).dropWhile Text.isBlank =
      if cs = [] then after.dropWhile Text.isBlank else cs ++ after := by
  rw [List.append_assoc, List.dropWhile_append_of_pos hb]
  cases cs with
  | nil => rfl
  | cons c cs =>
    rw [List.cons_append, List.dropWhile_cons_of_neg (by simp [hcs c (by simp)])]
    rfl

lemma trimEnd_blank {cs after : List Char} (hcs : ∀ c ∈ cs, Text.isBlank c = false)
    (ha : ∀ c ∈ after, Text.isBlank c) : Text.trimEnd (cs ++ after) = cs := by
  have hrev : ∀ c ∈ after.reverse, Text.isBlank c := fun c hc => ha c (List.mem_reverse.1 hc)
  rw [Text.trimEnd, List.reverse_append, List.dropWhile_append_of_pos hrev]
  cases h : cs.reverse with
  | nil => simpa using h
  | cons c back =>
    have hc : c ∈ cs := List.mem_reverse.1 (h ▸ List.mem_cons_self)
    rw [List.dropWhile_cons_of_neg (by simp [hcs c hc]), ← h, List.reverse_reverse]

lemma trim_blank {before cs after : List Char} (hb : ∀ c ∈ before, Text.isBlank c)
    (hcs : ∀ c ∈ cs, Text.isBlank c = false) (ha : ∀ c ∈ after, Text.isBlank c) :
    Text.trim (before ++ cs ++ after) = cs := by
  rw [Text.trim, dropWhile_blank hb hcs]
  by_cases hnil : cs = []
  · subst hnil
    rw [if_pos rfl]
    have hdrop : after.dropWhile Text.isBlank = [] := List.dropWhile_eq_nil_iff.2 ha
    rw [hdrop]
    rfl
  · rw [if_neg hnil, trimEnd_blank hcs ha]

end CosmosClient.Proofs
