import CosmosClient.Error
import CosmosClient.Json.Decode

/-!
# Coins

A coin is an amount of a denomination. `Coins` holds at most one coin of a denomination, in the order
of their denominations, and no zero amounts; sums stop at the greatest amount.
-/

namespace CosmosClient

/-- An amount, of at most 128 bits. -/
structure Amount where
  toNat : Nat
  lt : toNat < 0x100000000000000000000000000000000
  deriving DecidableEq, Repr

namespace Amount

def max : Nat := 0xffffffffffffffffffffffffffffffff

/-- The amount nearest to a number. -/
def clamp (n : Nat) : Amount :=
  ⟨min n max, by unfold max; omega⟩

/-- The sum, or the greatest amount. -/
def add (a b : Amount) : Amount :=
  clamp (a.toNat + b.toNat)

/-- The difference, unless it is negative. -/
def sub? (a b : Amount) : Option Amount :=
  if b.toNat ≤ a.toNat then some ⟨a.toNat - b.toNat, by have := a.lt; omega⟩ else none

def write (a : Amount) : String :=
  Number.write a.toNat

def read (cs : List Char) : Except NumberFault Amount :=
  (Number.readNat max cs).map clamp

end Amount

/-- An amount of a denomination. -/
structure Coin where
  denom : String
  amount : Amount
  deriving DecidableEq, Repr

namespace Denom

/-- Whether a character may follow the first one of a denomination. -/
def isTail (c : Char) : Bool :=
  c.isAlphanum || "/:._-".toList.contains c

/-- Checks that a denomination is a letter with letters, digits and some marks behind it. -/
def check : List Char → Except Failure Unit
  | [] => .error (Failure.text "Must not have an empty denom")
  | c :: cs =>
    if ¬c.isAlpha then .error (Failure.text "Denom must start with an ASCII letter")
    else if cs.all isTail then .ok ()
    else .error (Failure.text "Denom contains invalid characters")

/-- Splits an amount from the denomination behind it. -/
def split (isAmount : Char → Bool) (cs : List Char) : Except Failure (List Char × List Char) :=
  let amount := cs.takeWhile isAmount
  let denom := cs.dropWhile isAmount
  if cs.isEmpty then .error (Failure.text "Cannot parse empty string")
  else if denom.isEmpty then .error (Failure.text "No denom found")
  else if amount.isEmpty then .error (Failure.text "Must not have an empty amount")
  else (check denom).map fun _ => (amount, denom)

end Denom

namespace Coin

def write (c : Coin) : String :=
  c.amount.write ++ c.denom

def read (cs : List Char) : Except Failure Coin :=
  inContext s!"Could not parse coin value {Quoted.write (String.ofList cs)}" do
    let (amount, denom) ← Denom.split Char.isDigit cs
    let amount ← (Amount.read amount).mapError fun e => Failure.text e.message
    return ⟨String.ofList denom, amount⟩

def toJson (c : Coin) : Json :=
  .obj [("denom", .str c.denom), ("amount", .str c.amount.write)]

def ofJson : Json.Decoder Coin := fun j => do
  let (denom, amount) ← Json.record
    [Json.slot "denom" false Json.text fun x s => (some x, s.2),
      Json.slot "amount" false (Json.textOf fun s => (Amount.read s.toList).toOption)
        fun x s => (s.1, some x)]
    ((none : Option String), (none : Option Amount)) j
  return ⟨← Json.require denom, ← Json.require amount⟩

end Coin

/-- At most one coin of each denomination. -/
structure Coins where
  toList : List Coin
  sorted : toList.Pairwise fun a b => a.denom < b.denom
  nonzero : ∀ c ∈ toList, c.amount.toNat ≠ 0
  deriving DecidableEq

namespace Coins

/-- Adds a coin to coins sorted by denomination. -/
def insert (c : Coin) : List Coin → List Coin
  | [] => [c]
  | d :: rest =>
    if c.denom < d.denom then c :: d :: rest
    else if c.denom = d.denom then ⟨d.denom, d.amount.add c.amount⟩ :: rest
    else d :: insert c rest

/-- Takes a coin from coins, unless they hold less of it. -/
def remove? (c : Coin) : List Coin → Option (List Coin)
  | [] => none
  | d :: rest =>
    if c.denom = d.denom then
      (d.amount.sub? c.amount).map fun left =>
        if left.toNat = 0 then rest else ⟨d.denom, left⟩ :: rest
    else (remove? c rest).map (d :: ·)

theorem mem_insert {c e : Coin} {l : List Coin} (h : e ∈ insert c l) :
    e.denom = c.denom ∨ e ∈ l := by
  induction l with
  | nil => simp_all [insert]
  | cons d rest ih =>
    simp only [insert] at h
    split at h
    · simp_all
      rcases h with h | h | h <;> simp_all
    · split at h
      · rcases List.mem_cons.1 h with h | h
        · left; subst h; simp_all
        · right; simp [h]
      · rcases List.mem_cons.1 h with h | h
        · right; simp [h]
        · rcases ih h with h | h <;> simp [h]

theorem insert_sorted {c : Coin} {l : List Coin} (h : l.Pairwise fun a b => a.denom < b.denom) :
    (insert c l).Pairwise fun a b => a.denom < b.denom := by
  induction l with
  | nil => simp [insert]
  | cons d rest ih =>
    obtain ⟨hd, hr⟩ := List.pairwise_cons.1 h
    simp only [insert]
    split
    next hlt =>
      refine List.pairwise_cons.2 ⟨fun e he => ?_, h⟩
      rcases List.mem_cons.1 he with he | he
      · exact he ▸ hlt
      · exact String.lt_trans hlt (hd e he)
    next hge =>
      split
      next heq => exact List.pairwise_cons.2 ⟨fun e he => hd e he, hr⟩
      next hne =>
        refine List.pairwise_cons.2 ⟨fun e he => ?_, ih hr⟩
        rcases mem_insert he with he | he
        · have hle : d.denom ≤ c.denom := String.not_lt.1 hge
          rw [he]
          exact Decidable.byContradiction fun hn =>
            hne (String.le_antisymm (String.not_lt.1 hn) hle)
        · exact hd e he

theorem add_ne_zero {a b : Amount} (h : b.toNat ≠ 0) : (a.add b).toNat ≠ 0 := by
  simp only [Amount.add, Amount.clamp, Amount.max]
  omega

theorem insert_nonzero {c : Coin} {l : List Coin} (hc : c.amount.toNat ≠ 0)
    (h : ∀ d ∈ l, d.amount.toNat ≠ 0) : ∀ d ∈ insert c l, d.amount.toNat ≠ 0 := by
  induction l with
  | nil => simpa [insert] using hc
  | cons d rest ih =>
    have hd := h d (by simp)
    have hr : ∀ e ∈ rest, e.amount.toNat ≠ 0 := fun e he => h e (by simp [he])
    intro e he
    simp only [insert] at he
    split at he
    · rcases List.mem_cons.1 he with he | he
      · exact he ▸ hc
      · exact h e he
    · split at he
      · rcases List.mem_cons.1 he with he | he
        · subst he; exact add_ne_zero hc
        · exact hr e he
      · rcases List.mem_cons.1 he with he | he
        · exact he ▸ hd
        · exact ih hr e he

theorem mem_of_remove? {c : Coin} {l m : List Coin} (h : remove? c l = some m) :
    ∀ e ∈ m, ∃ d ∈ l, d.denom = e.denom := by
  induction l generalizing m with
  | nil => simp [remove?] at h
  | cons d rest ih =>
    simp only [remove?] at h
    split at h
    · obtain ⟨left, _, hm⟩ := Option.map_eq_some_iff.1 h
      intro e he
      split at hm
      · exact ⟨e, by simp [hm ▸ he], rfl⟩
      · rw [← hm] at he
        rcases List.mem_cons.1 he with he | he
        · exact ⟨d, by simp, by rw [he]⟩
        · exact ⟨e, by simp [he], rfl⟩
    · obtain ⟨rest', hrest', hm⟩ := Option.map_eq_some_iff.1 h
      intro e he
      rw [← hm] at he
      rcases List.mem_cons.1 he with he | he
      · exact ⟨d, by simp, by rw [he]⟩
      · obtain ⟨x, hx, hxe⟩ := ih hrest' e he
        exact ⟨x, by simp [hx], hxe⟩

theorem remove?_sorted {c : Coin} {l m : List Coin}
    (hl : l.Pairwise fun a b => a.denom < b.denom) (h : remove? c l = some m) :
    m.Pairwise fun a b => a.denom < b.denom := by
  induction l generalizing m with
  | nil => simp [remove?] at h
  | cons d rest ih =>
    obtain ⟨hd, hr⟩ := List.pairwise_cons.1 hl
    simp only [remove?] at h
    split at h
    · obtain ⟨left, _, hm⟩ := Option.map_eq_some_iff.1 h
      split at hm
      · exact hm ▸ hr
      · exact hm ▸ List.pairwise_cons.2 ⟨fun e he => hd e he, hr⟩
    · obtain ⟨rest', hrest', hm⟩ := Option.map_eq_some_iff.1 h
      refine hm ▸ List.pairwise_cons.2 ⟨fun e he => ?_, ih hr hrest'⟩
      obtain ⟨x, hx, hxe⟩ := mem_of_remove? hrest' e he
      exact hxe ▸ hd x hx

theorem remove?_nonzero {c : Coin} {l m : List Coin} (hl : ∀ d ∈ l, d.amount.toNat ≠ 0)
    (h : remove? c l = some m) : ∀ d ∈ m, d.amount.toNat ≠ 0 := by
  induction l generalizing m with
  | nil => simp [remove?] at h
  | cons d rest ih =>
    have hd := hl d (by simp)
    have hr : ∀ e ∈ rest, e.amount.toNat ≠ 0 := fun e he => hl e (by simp [he])
    simp only [remove?] at h
    split at h
    · obtain ⟨left, _, hm⟩ := Option.map_eq_some_iff.1 h
      intro e he
      split at hm
      · exact hr e (hm ▸ he)
      next hleft =>
        rw [← hm] at he
        rcases List.mem_cons.1 he with he | he
        · exact he ▸ hleft
        · exact hr e he
    · obtain ⟨rest', hrest', hm⟩ := Option.map_eq_some_iff.1 h
      intro e he
      rw [← hm] at he
      rcases List.mem_cons.1 he with he | he
      · exact he ▸ hd
      · exact ih hr hrest' e he

def empty : Coins := ⟨[], .nil, by simp⟩

/-- Adds a coin; a zero amount changes nothing. -/
def addCoin (cs : Coins) (c : Coin) : Coins :=
  if h : c.amount.toNat = 0 then cs
  else ⟨insert c cs.toList, insert_sorted cs.sorted, insert_nonzero h cs.nonzero⟩

/-- The sum of coins, each denomination up to the greatest amount. -/
def ofList (coins : List Coin) : Coins :=
  coins.foldl addCoin empty

/-- The sum of two sets of coins. -/
def add (a b : Coins) : Coins :=
  b.toList.foldl addCoin a

/-- Takes a coin away, unless there is less of it. -/
def subCoin? (cs : Coins) (c : Coin) : Option Coins :=
  match h : remove? c cs.toList with
  | none => none
  | some left => some ⟨left, remove?_sorted cs.sorted h, remove?_nonzero cs.nonzero h⟩

/-- The difference, unless a denomination would fall below zero. -/
def sub? (a b : Coins) : Option Coins :=
  b.toList.foldlM subCoin? a

def get (cs : Coins) (denom : String) : Nat :=
  ((cs.toList.find? fun c => c.denom == denom).map fun c => c.amount.toNat).getD 0

def denoms (cs : Coins) : List String :=
  cs.toList.map (·.denom)

/-- Coins with commas between them. -/
def write (cs : Coins) : String :=
  Text.join "," (cs.toList.map Coin.write)

def dump (cs : Coins) : String :=
  "Coins(" ++ cs.write ++ ")"

/-- Reads coins with commas between them; blanks around them and empty pieces do not count. -/
def read (cs : List Char) : Except Failure Coins :=
  let pieces := ((Text.split ',' cs).map Text.trim).filter fun piece => ¬piece.isEmpty
  (pieces.mapM Coin.read).map ofList

def toJson (cs : Coins) : Json :=
  .arr (cs.toList.map Coin.toJson)

def ofJson : Json.Decoder Coins := fun j =>
  (Json.list Coin.ofJson j).map ofList

end Coins
end CosmosClient
