import Mathlib
import CosmosClient.Message
import CosmosClient.Proofs.Results

/-!
# Numbers and coins read back

A number is read back from its digits by every reader that it is small enough for. Coins are read back
one by one: a coin whose denomination lies behind all the others is added at their end.
-/

namespace CosmosClient

/-- A text of digits, perhaps behind a plus sign, for a number that is at most `max`. -/
def Number.Denotes (max : Nat) (cs : List Char) : Prop :=
  ∃ ds, (cs = ds ∨ cs = '+' :: ds) ∧ ds ≠ [] ∧ (∀ c ∈ ds, c.isDigit) ∧
    Nat.ofDigitChars 10 ds 0 ≤ max

end CosmosClient

namespace CosmosClient.Proofs

lemma le_ofDigitChars (n : Nat) (cs : List Char) : n ≤ Nat.ofDigitChars 10 cs n := by
  rw [Nat.ofDigitChars_eq_ofDigitChars_zero]
  have hpos : 0 < 10 ^ cs.length := Nat.pow_pos (by decide)
  have hle := Nat.le_mul_of_pos_left n hpos
  omega

/-- The bound is checked at every digit, but the number only grows. -/
lemma readDigits_ofDigitChars {max : Nat} (n : Nat) {cs : List Char} (hcs : ∀ c ∈ cs, c.isDigit)
    (h : Nat.ofDigitChars 10 cs n ≤ max) :
    Number.readDigits max n cs = .ok (Nat.ofDigitChars 10 cs n) := by
  induction cs generalizing n with
  | nil => simp [Number.readDigits]
  | cons c cs ih =>
    rw [Nat.ofDigitChars_cons] at h ⊢
    have hnext : 10 * n + (c.toNat - '0'.toNat) ≤ max := le_trans (le_ofDigitChars _ cs) h
    simp only [Number.readDigits, hcs c (by simp), if_true, hnext]
    exact ih _ (fun d hd => hcs d (by simp [hd])) h

lemma readDigits_ok_iff {max n : Nat} (hn : n ≤ max) (cs : List Char) :
    (∃ m, Number.readDigits max n cs = .ok m) ↔
      (∀ c ∈ cs, c.isDigit) ∧ Nat.ofDigitChars 10 cs n ≤ max := by
  constructor
  · rintro ⟨m, hm⟩
    induction cs generalizing n with
    | nil => simpa using hn
    | cons c cs ih =>
      rw [Number.readDigits] at hm
      split at hm
      next hc =>
        simp only at hm
        split at hm
        next hnext =>
          obtain ⟨hcs, hvalue⟩ := ih hnext hm
          exact ⟨List.forall_mem_cons.2 ⟨hc, hcs⟩, by rwa [Nat.ofDigitChars_cons]⟩
        next => simp at hm
      next => simp at hm
  · rintro ⟨hcs, hvalue⟩
    exact ⟨_, readDigits_ofDigitChars n hcs hvalue⟩

/-- The texts that are read as numbers. -/
lemma readNat_ok_iff (max : Nat) (cs : List Char) :
    (∃ n, Number.readNat max cs = .ok n) ↔ Number.Denotes max cs := by
  have hplus : ¬('+' : Char).isDigit := by decide
  unfold Number.readNat
  split
  next =>
    apply iff_of_false
    · simp
    · rintro ⟨ds, hds, hne, -⟩
      simp_all
  next =>
    apply iff_of_false
    · simp
    · rintro ⟨ds, rfl | hds, hne, hdigits, -⟩
      · exact hplus (hdigits '+' (by simp))
      · simp_all
  next cs hcs =>
    rw [readDigits_ok_iff (Nat.zero_le max)]
    constructor
    · rintro ⟨hdigits, hvalue⟩
      exact ⟨cs, .inr rfl, hcs, hdigits, hvalue⟩
    · rintro ⟨ds, rfl | hds, -, hdigits, hvalue⟩
      · exact absurd (hdigits '+' (by simp)) hplus
      · obtain rfl := (List.cons.inj hds).2
        exact ⟨hdigits, hvalue⟩
  next _ hcs _ hsign =>
    rw [readDigits_ok_iff (Nat.zero_le max)]
    constructor
    · rintro ⟨hdigits, hvalue⟩
      exact ⟨cs, .inl rfl, hcs, hdigits, hvalue⟩
    · rintro ⟨ds, rfl | rfl, -, hdigits, hvalue⟩
      · exact ⟨hdigits, hvalue⟩
      · exact absurd rfl (hsign ds)

/-- A text that is read as a number holds digits alone, and perhaps a plus sign. -/
lemma mem_readNat {max n : Nat} {cs : List Char} (h : Number.readNat max cs = .ok n) :
    ∀ c ∈ cs, c.isDigit ∨ c = '+' := by
  obtain ⟨digits, hcs, -, hdigits, -⟩ := (readNat_ok_iff max cs).1 ⟨n, h⟩
  intro c hc
  rcases hcs with rfl | rfl
  · exact .inl (hdigits c hc)
  · rcases List.mem_cons.1 hc with rfl | hc
    · exact .inr rfl
    · exact .inl (hdigits c hc)

lemma isDigit_of_mem_digits {n : Nat} : ∀ c ∈ Number.digits n, c.isDigit :=
  fun _ hc => Nat.isDigit_of_mem_toDigits (by decide) (by decide) hc

lemma readDigits_digits {max n : Nat} (h : n ≤ max) :
    Number.readDigits max 0 (Number.digits n) = .ok n := by
  have hvalue : Nat.ofDigitChars 10 (Number.digits n) 0 = n := Nat.ofDigitChars_ten_toDigits
  have hfits : Nat.ofDigitChars 10 (Number.digits n) 0 ≤ max := by rwa [hvalue]
  have hread := readDigits_ofDigitChars 0 isDigit_of_mem_digits hfits
  rwa [hvalue] at hread

lemma digits_ne_cons {n : Nat} {sign : Char} (hsign : ¬sign.isDigit) (cs : List Char) :
    Number.digits n ≠ sign :: cs := by
  intro hcs
  exact hsign (isDigit_of_mem_digits (n := n) sign (by rw [hcs]; simp))

lemma readNat_digits {max n : Nat} (h : n ≤ max) :
    Number.readNat max (Number.digits n) = .ok n := by
  have hne : Number.digits n ≠ [] := Nat.toDigits_ne_nil
  have hplus : ∀ cs, Number.digits n ≠ '+' :: cs := digits_ne_cons (by decide)
  unfold Number.readNat
  split
  · exact absurd ‹_› hne
  · exact absurd ‹_› (hplus _)
  · exact absurd ‹_› (hplus _)
  · exact readDigits_digits h

lemma readInt64_write (n : Int64) : Number.readInt64 (Number.writeInt n.toInt).toList = .ok n := by
  have hmax : Int64.maxValue.toNatClampNeg = 2 ^ 63 - 1 := by decide
  have hlow := n.le_toInt
  have hhigh := n.toInt_lt
  have hread : Number.readInt (2 ^ 63 - 1) (Number.writeInt n.toInt).toList = .ok n.toInt := by
    cases hn : n.toInt with
    | ofNat m =>
      have hminus : ∀ cs, Number.digits m ≠ '-' :: cs := digits_ne_cons (by decide)
      have hm : m ≤ 2 ^ 63 - 1 := by
        rw [hn, Int.ofNat_eq_natCast] at hhigh
        omega
      rw [Number.writeInt, Number.write, String.toList_ofList]
      unfold Number.readInt
      split
      · exact absurd ‹_› (hminus _)
      · exact absurd ‹_› (hminus _)
      · rw [readNat_digits hm]
        rfl
    | negSucc m =>
      have hdigits : Number.digits (m + 1) ≠ [] := Nat.toDigits_ne_nil
      have htext : (Number.writeInt (.negSucc m)).toList = '-' :: Number.digits (m + 1) := by
        simp [Number.writeInt, Number.write]
      have hm : m + 1 ≤ 2 ^ 63 - 1 + 1 := by
        rw [hn] at hlow
        omega
      rw [htext]
      unfold Number.readInt
      split
      next h => exact absurd (List.cons.inj h).2 hdigits
      next cs _ h =>
        rw [← (List.cons.inj h).2, readDigits_digits hm]
        rfl
      next _ h => exact (h _ rfl).elim
  rw [Number.readInt64, hmax, hread]
  simp only [Except.map, Int64.ofInt_toInt]

lemma read_write (a : Amount) : Amount.read a.write.toList = .ok a := by
  have hle : a.toNat ≤ Amount.max := by
    have := a.lt
    unfold Amount.max
    omega
  have hclamp : Amount.clamp a.toNat = a := by
    cases a
    simp only [Amount.clamp, Amount.mk.injEq]
    exact Nat.min_eq_left hle
  rw [Amount.read, Amount.write, Number.write, String.toList_ofList, readNat_digits hle]
  simp only [Except.map, hclamp]

lemma coinOfProto_error_iff (p : Proto.Coin) :
    (∃ e, Coins.coinOfProto p = .error e) ↔ ¬Number.Denotes Amount.max p.amount.toList := by
  rw [← readNat_ok_iff, Coins.coinOfProto, Amount.read]
  cases Number.readNat Amount.max p.amount.toList <;> simp [Except.map]

lemma coinOfProto_toProto (c : Coin) : Coins.coinOfProto c.toProto = .ok c := by
  simp only [Coins.coinOfProto, Coin.toProto, read_write]

lemma insert_last {c : Coin} {l : List Coin} (h : ∀ d ∈ l, d.denom < c.denom) :
    Coins.insert c l = l ++ [c] := by
  induction l with
  | nil => rfl
  | cons d l ih =>
    have hd : d.denom < c.denom := h d (by simp)
    have hnot : ¬c.denom < d.denom := fun hlt => String.lt_irrefl _ (String.lt_trans hlt hd)
    have hne : c.denom ≠ d.denom := fun he => absurd hd (he ▸ String.lt_irrefl _)
    rw [Coins.insert, if_neg hnot, if_neg hne, ih fun e he => h e (by simp [he])]
    rfl

lemma toList_foldl_addCoin (cs : Coins) {l : List Coin}
    (hsorted : (cs.toList ++ l).Pairwise fun a b => a.denom < b.denom)
    (hnonzero : ∀ c ∈ l, c.amount.toNat ≠ 0) :
    (l.foldl Coins.addCoin cs).toList = cs.toList ++ l := by
  induction l generalizing cs with
  | nil => simp
  | cons c l ih =>
    have hlast : Coins.insert c cs.toList = cs.toList ++ [c] :=
      insert_last fun d hd => (List.pairwise_append.1 hsorted).2.2 d hd c (by simp)
    have hadd : (cs.addCoin c).toList = cs.toList ++ [c] := by
      rw [Coins.addCoin, dif_neg (hnonzero c (by simp))]
      exact hlast
    have hrest := ih (cs.addCoin c) (by rw [hadd]; simpa using hsorted)
      fun d hd => hnonzero d (by simp [hd])
    rw [List.foldl_cons, hrest, hadd]
    simp

lemma ofList_toList (cs : Coins) : Coins.ofList cs.toList = cs := by
  have h : (Coins.ofList cs.toList).toList = cs.toList :=
    toList_foldl_addCoin Coins.empty cs.sorted cs.nonzero
  cases hof : Coins.ofList cs.toList
  cases cs
  rw [hof] at h
  simpa using h

lemma coinsOfProto_toProto (cs : Coins) : Coins.ofProto cs.toProto = .ok cs := by
  have hcoins : cs.toProto.mapM Coins.coinOfProto = .ok cs.toList :=
    mapM_map_ok fun c _ => coinOfProto_toProto c
  simp only [Coins.ofProto, hcoins, Except.map, ofList_toList]

lemma feeOfProto_toProto (f : Fee) : Fee.ofProto f.toProto = .ok f := by
  simp only [Fee.ofProto, Fee.toProto, coinsOfProto_toProto, Except.map]

lemma partyOfProto_toProto (p : Party) : Message.partyOfProto (Message.partyToProto p) = .ok p := by
  simp only [Message.partyOfProto, Message.partyToProto, coinsOfProto_toProto, Except.map]

end CosmosClient.Proofs
