import Mathlib
import CosmosClient.Proofs.JsonReading
import CosmosClient.Proofs.LegacyDocuments

/-!
# Coins as amounts of denominations

Coins are known by the amount that they hold of each denomination. Sums and differences of coins are
sums and differences of these amounts, up to the greatest amount and down to nothing.
-/

namespace CosmosClient

namespace Coins

/-- The amount of a denomination in sorted coins. -/
def held (l : List Coin) (denom : String) : Nat :=
  ((l.find? fun c => c.denom == denom).map fun c => c.amount.toNat).getD 0

/-- The sum of all amounts of a denomination. -/
def total (l : List Coin) (denom : String) : Nat :=
  ((l.filter fun c => c.denom == denom).map fun c => c.amount.toNat).sum

end Coins
end CosmosClient

namespace CosmosClient.Proofs
open Coins

lemma amount_le (a : Amount) : a.toNat ≤ Amount.max := by
  have hlt := a.lt
  unfold Amount.max
  omega

@[simp]
lemma held_cons (c : Coin) (l : List Coin) (d : String) :
    held (c :: l) d = if c.denom = d then c.amount.toNat else held l d := by
  by_cases h : c.denom = d <;> simp [held, h]

@[simp]
lemma total_cons (c : Coin) (l : List Coin) (d : String) :
    total (c :: l) d = (if c.denom = d then c.amount.toNat else 0) + total l d := by
  by_cases h : c.denom = d <;> simp [total, h]

/-- Nothing is held of a denomination before the first one of sorted coins. -/
lemma held_of_lt {l : List Coin} {d : String} (h : ∀ c ∈ l, d < c.denom) : held l d = 0 := by
  induction l with
  | nil => rfl
  | cons c l ih =>
    obtain ⟨hc, hl⟩ := List.forall_mem_cons.1 h
    have hcd : c.denom ≠ d := fun hcd => String.lt_irrefl _ (hcd ▸ hc)
    rw [held_cons, if_neg hcd, ih hl]

lemma held_le (l : List Coin) (d : String) : held l d ≤ Amount.max := by
  induction l with
  | nil => exact Nat.zero_le _
  | cons c l ih =>
    rw [held_cons]
    split
    · exact amount_le c.amount
    · exact ih

/-- In sorted coins every denomination stands once. -/
lemma total_of_sorted {l : List Coin} (h : l.Pairwise fun a b => a.denom < b.denom) (d : String) :
    total l d = held l d := by
  induction l with
  | nil => rfl
  | cons c l ih =>
    obtain ⟨hc, hl⟩ := List.pairwise_cons.1 h
    rw [total_cons, held_cons, ih hl]
    split
    next hcd => rw [held_of_lt (hcd ▸ hc), Nat.add_zero]
    next => exact Nat.zero_add _

lemma total_perm {l m : List Coin} (h : l.Perm m) (d : String) : total l d = total m d :=
  ((h.filter _).map _).sum_eq

lemma get_eq (cs : Coins) (d : String) : cs.get d = held cs.toList d := rfl

lemma get_le (cs : Coins) (d : String) : cs.get d ≤ Amount.max :=
  held_le cs.toList d

lemma mem_iff_get (cs : Coins) (c : Coin) :
    c ∈ cs.toList ↔ c.amount.toNat ≠ 0 ∧ cs.get c.denom = c.amount.toNat := by
  obtain ⟨l, hsorted, hnonzero⟩ := cs
  show c ∈ l ↔ c.amount.toNat ≠ 0 ∧ held l c.denom = c.amount.toNat
  induction l with
  | nil => simpa [held] using Ne.symm
  | cons e l ih =>
    obtain ⟨he, hl⟩ := List.pairwise_cons.1 hsorted
    obtain ⟨hne, hnl⟩ := List.forall_mem_cons.1 hnonzero
    rw [List.mem_cons, held_cons, ih hl hnl]
    by_cases hce : e.denom = c.denom
    · rw [if_pos hce, held_of_lt (hce ▸ he)]
      constructor
      · rintro (rfl | ⟨hc, hzero⟩)
        · exact ⟨hne, rfl⟩
        · exact absurd hzero.symm hc
      · rintro ⟨-, hsame⟩
        left
        obtain ⟨_, _, _⟩ := c
        obtain ⟨_, _, _⟩ := e
        simp_all
    · rw [if_neg hce]
      constructor
      · rintro (rfl | h)
        · exact absurd rfl hce
        · exact h
      · exact .inr

/-- Coins that hold the same amounts are the same. -/
lemma ext_get {a b : Coins} (h : ∀ d, a.get d = b.get d) : a = b := by
  have hnodup (cs : Coins) : cs.toList.Nodup := by
    refine cs.sorted.imp ?_
    rintro c _ hlt rfl
    exact String.lt_irrefl _ hlt
  have hperm : a.toList.Perm b.toList := by
    rw [List.perm_ext_iff_of_nodup (hnodup a) (hnodup b)]
    intro c
    rw [mem_iff_get, mem_iff_get, h]
  have hlist : a.toList = b.toList :=
    hperm.eq_of_pairwise (fun x y _ _ hxy hyx => absurd (String.lt_trans hxy hyx)
      (String.lt_irrefl _)) a.sorted b.sorted
  cases a
  cases b
  simpa using hlist

lemma held_insert {l : List Coin} (h : l.Pairwise fun a b => a.denom < b.denom) (c : Coin)
    (d : String) :
    held (Coins.insert c l) d =
      if c.denom = d then min (held l d + c.amount.toNat) Amount.max else held l d := by
  have hc := amount_le c.amount
  induction l with
  | nil =>
    rw [Coins.insert, held_cons]
    split
    · simp [held, hc]
    · rfl
  | cons e l ih =>
    obtain ⟨he, hl⟩ := List.pairwise_cons.1 h
    rw [Coins.insert]
    split
    next hlt =>
      rw [held_cons]
      split
      next hcd =>
        have hfirst : ∀ x ∈ e :: l, c.denom < x.denom :=
          List.forall_mem_cons.2 ⟨hlt, fun x hx => String.lt_trans hlt (he x hx)⟩
        rw [held_of_lt (hcd ▸ hfirst), Nat.zero_add, Nat.min_eq_left hc]
      next => rfl
    next =>
      split
      next hce =>
        rw [held_cons, held_cons, ← hce]
        split
        · rfl
        · rfl
      next hce =>
        rw [held_cons, held_cons, ih hl]
        by_cases hed : e.denom = d
        · have hcd : c.denom ≠ d := fun hcd => hce (hcd.trans hed.symm)
          rw [if_pos hed, if_neg hcd, if_pos hed]
        · rw [if_neg hed, if_neg hed]

lemma get_addCoin (cs : Coins) (c : Coin) (d : String) :
    (cs.addCoin c).get d =
      if c.denom = d then min (cs.get d + c.amount.toNat) Amount.max else cs.get d := by
  by_cases hzero : c.amount.toNat = 0
  · rw [addCoin, dif_pos hzero, hzero, Nat.add_zero, Nat.min_eq_left (get_le cs d), ite_self]
  · rw [addCoin, dif_neg hzero]
    exact held_insert cs.sorted c d

/-- Adding coins one by one stops at the greatest amount at the same place as adding their sum. -/
lemma get_foldl_addCoin (cs : Coins) (l : List Coin) (d : String) :
    (l.foldl addCoin cs).get d = min (cs.get d + total l d) Amount.max := by
  induction l generalizing cs with
  | nil => exact (Nat.min_eq_left (get_le cs d)).symm
  | cons c l ih =>
    rw [List.foldl_cons, ih, get_addCoin, total_cons]
    split
    · omega
    · rw [Nat.zero_add]

lemma get_ofList (l : List Coin) (d : String) : (ofList l).get d = min (total l d) Amount.max := by
  rw [ofList, get_foldl_addCoin]
  simp [Coins.get, Coins.empty]

lemma get_add (a b : Coins) (d : String) :
    (a.add b).get d = min (a.get d + b.get d) Amount.max := by
  rw [add, get_foldl_addCoin, total_of_sorted b.sorted]
  rfl

lemma ofList_perm {l m : List Coin} (h : l.Perm m) : ofList l = ofList m := by
  apply ext_get
  intro d
  rw [get_ofList, get_ofList, total_perm h]

lemma add_comm (a b : Coins) : a.add b = b.add a := by
  apply ext_get
  intro d
  rw [get_add, get_add, Nat.add_comm]

lemma add_assoc (a b c : Coins) : (a.add b).add c = a.add (b.add c) := by
  apply ext_get
  intro d
  simp only [get_add]
  omega

lemma toNat_of_sub? {a b left : Amount} (h : a.sub? b = some left) :
    left.toNat = a.toNat - b.toNat := by
  unfold Amount.sub? at h
  split at h
  · obtain rfl := Option.some.inj h
    rfl
  · simp at h

lemma held_remove? {l m : List Coin} {c : Coin} (h : l.Pairwise fun a b => a.denom < b.denom)
    (hm : remove? c l = some m) (d : String) :
    held m d = if c.denom = d then held l d - c.amount.toNat else held l d := by
  induction l generalizing m with
  | nil => simp [remove?] at hm
  | cons e l ih =>
    obtain ⟨he, hl⟩ := List.pairwise_cons.1 h
    rw [remove?] at hm
    split at hm
    next hce =>
      obtain ⟨left, hleft, rfl⟩ := Option.map_eq_some_iff.1 hm
      have hdiff := toNat_of_sub? hleft
      rw [held_cons, hce]
      split
      next hzero =>
        split
        next hed => rw [held_of_lt (hed ▸ he), ← hdiff, hzero]
        next => rfl
      next =>
        rw [held_cons]
        split
        · exact hdiff
        · rfl
    next hce =>
      obtain ⟨rest, hrest, rfl⟩ := Option.map_eq_some_iff.1 hm
      rw [held_cons, held_cons, ih hl hrest]
      by_cases hed : e.denom = d
      · have hcd : c.denom ≠ d := fun hcd => hce (hcd.trans hed.symm)
        rw [if_pos hed, if_neg hcd, if_pos hed]
      · rw [if_neg hed, if_neg hed]

lemma remove?_isSome {c : Coin} (hc : c.amount.toNat ≠ 0) (l : List Coin) :
    (remove? c l).isSome ↔ c.amount.toNat ≤ held l c.denom := by
  induction l with
  | nil => simpa [remove?, held] using hc
  | cons e l ih =>
    rw [remove?, held_cons]
    by_cases hce : c.denom = e.denom
    · rw [if_pos hce, if_pos hce.symm, Option.isSome_map]
      unfold Amount.sub?
      split <;> simp_all
    · rw [if_neg hce, if_neg (Ne.symm hce), Option.isSome_map, ih]

lemma subCoin?_isSome (cs : Coins) {c : Coin} (hc : c.amount.toNat ≠ 0) :
    (cs.subCoin? c).isSome ↔ c.amount.toNat ≤ cs.get c.denom := by
  rw [get_eq, ← remove?_isSome hc]
  unfold subCoin?
  split <;> simp_all

lemma get_subCoin? {cs left : Coins} {c : Coin} (h : cs.subCoin? c = some left) (d : String) :
    left.get d = if c.denom = d then cs.get d - c.amount.toNat else cs.get d := by
  unfold subCoin? at h
  split at h
  next => simp at h
  next l hl =>
    obtain rfl := Option.some.inj h
    exact held_remove? cs.sorted hl d

/-- Coins are taken away one by one when there is enough for their sum. -/
lemma foldlM_subCoin? (cs : Coins) {l : List Coin} (hl : ∀ c ∈ l, c.amount.toNat ≠ 0) :
    ((l.foldlM subCoin? cs).isSome ↔ ∀ d, total l d ≤ cs.get d) ∧
      ∀ left, l.foldlM subCoin? cs = some left → ∀ d, left.get d = cs.get d - total l d := by
  induction l generalizing cs with
  | nil => simp [total]
  | cons c l ih =>
    obtain ⟨hc, hl⟩ := List.forall_mem_cons.1 hl
    rw [List.foldlM_cons]
    cases hsub : cs.subCoin? c with
    | none =>
      have hlack : cs.get c.denom < c.amount.toNat := by
        have hnone := (subCoin?_isSome cs hc).not
        rw [hsub] at hnone
        simpa using hnone
      constructor
      · apply iff_of_false
        · simp
        · intro hall
          have hd := hall c.denom
          rw [total_cons, if_pos rfl] at hd
          omega
      · simp
    | some rest =>
      have henough : c.amount.toNat ≤ cs.get c.denom := by
        rw [← subCoin?_isSome cs hc, hsub]
        rfl
      obtain ⟨hsome, hget⟩ := ih rest hl
      have hrest := get_subCoin? hsub
      simp only [Option.bind_eq_bind, Option.bind_some]
      constructor
      · rw [hsome]
        apply forall_congr'
        intro d
        rw [hrest, total_cons]
        split
        next hcd =>
          rw [hcd] at henough
          omega
        next => rw [Nat.zero_add]
      · intro left hleft d
        rw [hget left hleft, hrest, total_cons]
        split
        · omega
        · rw [Nat.zero_add]

lemma sub?_isSome (a b : Coins) : (a.sub? b).isSome ↔ ∀ d, b.get d ≤ a.get d := by
  rw [sub?, (foldlM_subCoin? a b.nonzero).1]
  simp only [total_of_sorted b.sorted, get_eq]

lemma get_sub? {a b left : Coins} (h : a.sub? b = some left) (d : String) :
    left.get d = a.get d - b.get d := by
  rw [(foldlM_subCoin? a b.nonzero).2 left h, total_of_sorted b.sorted, ← get_eq]

lemma add_sub? {a b : Coins} (h : ∀ d, a.get d + b.get d ≤ Amount.max) :
    (a.add b).sub? b = some a := by
  have hsome : ((a.add b).sub? b).isSome := by
    rw [sub?_isSome]
    intro d
    rw [get_add, Nat.min_eq_left (h d)]
    omega
  obtain ⟨left, hleft⟩ := Option.isSome_iff_exists.1 hsome
  rw [hleft, Option.some.injEq]
  apply ext_get
  intro d
  rw [get_sub? hleft, get_add, Nat.min_eq_left (h d)]
  omega

lemma coinsOfProto_error_iff (ps : List Proto.Coin) :
    (∃ e, Coins.ofProto ps = .error e) ↔
      ∃ p ∈ ps, ¬Number.Denotes Amount.max p.amount.toList := by
  rw [Coins.ofProto, map_error_iff, mapM_error_iff]
  simp only [coinOfProto_error_iff]

lemma coinsOfJson_value (cs : Coins) : Json.decodeValue Coins.ofJson cs.toJson = .ok cs := by
  rw [Json.decodeValue, coinsOfJson_toJson, Json.settle, mapError_ok]

lemma coins_depth (cs : Coins) : cs.toJson.depth ≤ Json.maxDepth := by
  have hitems (l : List Coin) : Json.depthItems (l.map Coin.toJson) ≤ 1 := by
    induction l with
    | nil => exact Nat.zero_le _
    | cons c l ih => exact Nat.max_le.2 ⟨le_refl 1, ih⟩
  exact (Nat.succ_le_succ (hitems cs.toList)).trans (by decide)

lemma coinsOfJson_text (cs : Coins) :
    Json.decodeText Coins.ofJson (Json.compact cs.toJson) = .ok cs := by
  apply decodeText_compact (textual_coins cs) (coins_depth cs)
  have hlist : Json.list Coin.ofJson cs.toJson = .ok cs.toList := by
    apply list_map
    intro c _
    simp [Coin.toJson, Coin.ofJson, Json.record, Json.keepFields, Json.slot, Json.text, Json.textOf,
      Json.require, read_write, Except.toOption]
  rw [Coins.ofJson, hlist, map_ok, ofList_toList]

/-- Coins are a finite map from denominations to amounts above zero, in which sums stop at the greatest
amount and differences exist when no amount falls below zero. They are the same in messages and in
documents. -/
theorem coins_faithful :
    (∀ cs : Coins, cs.denoms.Pairwise (· < ·) ∧ (∀ d ∈ cs.denoms, cs.get d ≠ 0) ∧
      ∀ d, cs.get d ≤ Amount.max) ∧
    (∀ a b : Coins, (∀ d, a.get d = b.get d) → a = b) ∧
    (∀ l d, (ofList l).get d = min (total l d) Amount.max) ∧
    (∀ l m : List Coin, l.Perm m → ofList l = ofList m) ∧
    (∀ a b : Coins, a.add b = b.add a) ∧
    (∀ a b c : Coins, (a.add b).add c = a.add (b.add c)) ∧
    (∀ (a b : Coins) d, (a.add b).get d = min (a.get d + b.get d) Amount.max) ∧
    (∀ a b : Coins, (a.sub? b).isSome ↔ ∀ d, b.get d ≤ a.get d) ∧
    (∀ a b left : Coins, a.sub? b = some left → ∀ d, left.get d = a.get d - b.get d) ∧
    (∀ a b : Coins, (∀ d, a.get d + b.get d ≤ Amount.max) → (a.add b).sub? b = some a) ∧
    (∀ ps, (∃ e, Coins.ofProto ps = .error e) ↔
      ∃ p ∈ ps, ¬Number.Denotes Amount.max p.amount.toList) ∧
    ∀ cs : Coins, Coins.ofProto cs.toProto = .ok cs ∧
      Json.decodeValue Coins.ofJson cs.toJson = .ok cs ∧
      Json.decodeText Coins.ofJson (Json.compact cs.toJson) = .ok cs := by
  refine ⟨?map, fun a b => ext_get, get_ofList, fun l m => ofList_perm, add_comm, add_assoc, get_add,
    sub?_isSome, fun a b left => get_sub?, fun a b => add_sub?, coinsOfProto_error_iff, ?same⟩
  case map =>
    intro cs
    refine ⟨List.pairwise_map.2 cs.sorted, ?_, get_le cs⟩
    intro d hd
    obtain ⟨c, hc, rfl⟩ := List.mem_map.1 hd
    obtain ⟨hne, hget⟩ := (mem_iff_get cs c).1 hc
    rwa [hget]
  case same =>
    intro cs
    exact ⟨coinsOfProto_toProto cs, coinsOfJson_value cs, coinsOfJson_text cs⟩

/-- Coins in no order, with a denomination twice and a zero amount. -/
def scatteredCoins : List Coin :=
  [⟨"uluna", .clamp 5⟩, ⟨"uatom", .clamp 10⟩, ⟨"uatom", .clamp 3⟩, ⟨"ustake", .clamp 0⟩]

theorem scatteredCoins_summed :
    ofList scatteredCoins = ofList scatteredCoins.reverse ∧
    (∃ left, (ofList scatteredCoins).sub? (ofList [⟨"uluna", .clamp 5⟩]) = some left ∧
      left.get "uluna" = 0 ∧ left.get "uatom" = 13) ∧
    ((ofList scatteredCoins).add (ofList [⟨"uatom", .clamp 1⟩])).sub? (ofList [⟨"uatom", .clamp 1⟩]) =
      some (ofList scatteredCoins) ∧
    ofList [⟨"ustake", .clamp 0⟩] = ofList [] := by
  obtain ⟨-, hext, hget, hperm, -, -, -, -, hsub, hback, -⟩ := coins_faithful
  have hleft : (ofList scatteredCoins).sub? (ofList [⟨"uluna", .clamp 5⟩]) =
      some (ofList [⟨"uatom", .clamp 13⟩]) := by decide +kernel
  refine ⟨hperm _ _ (List.reverse_perm _).symm, ⟨_, hleft, ?_, ?_⟩, hback _ _ ?_, hext _ _ ?_⟩
  · rw [hsub _ _ _ hleft]
    decide +kernel
  · rw [hsub _ _ _ hleft]
    decide +kernel
  · intro d
    have hall (l : List Coin) : total l d ≤ (l.map fun c => c.amount.toNat).sum :=
      (List.filter_sublist.map _).sum_le_sum fun _ _ => Nat.zero_le _
    have hfirst : total scatteredCoins d ≤ 18 := hall scatteredCoins
    have hsecond : total [⟨"uatom", .clamp 1⟩] d ≤ 1 := hall [⟨"uatom", .clamp 1⟩]
    rw [hget, hget]
    unfold Amount.max
    omega
  · intro d
    rw [hget, hget, total_cons]
    split <;> rfl

end CosmosClient.Proofs
