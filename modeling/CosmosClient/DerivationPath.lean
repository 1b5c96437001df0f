import CosmosClient.Error
import CosmosClient.Text.Number

/-!
# Derivation paths

A path leads from a seed to one of its keys: `m/44'/coin_type'/account'/0/index`. A mark behind a
number means that the step cannot be taken with the public key alone; such numbers are counted from
`2^31` on.
-/

namespace CosmosClient

/-- The parts of a path that may vary. -/
structure DerivationPath where
  coinType : UInt32
  account : UInt32
  index : UInt32
  deriving DecidableEq, Repr

namespace DerivationPath

def cosmosCoinType : UInt32 := 118

def terraCoinType : UInt32 := 330

/-- A path to a key of the first account. -/
def ofIndex (coinType index : UInt32) : DerivationPath := ⟨coinType, 0, index⟩

/-- The path that is taken when none is given. -/
def standard : DerivationPath := ofIndex cosmosCoinType 0

/-- What every path begins with. -/
def head : String := "m/44'/"

def chars (p : DerivationPath) : List Char :=
  head.toList ++ Number.digits p.coinType.toNat ++ ['\x27', '/'] ++
    Number.digits p.account.toNat ++ ['\x27', '/', '0', '/'] ++ Number.digits p.index.toNat

def write (p : DerivationPath) : String :=
  String.ofList p.chars

/-- Reads a number with a mark. -/
def readMarked (cs : List Char) : Except Failure UInt32 :=
  match Text.stripEnd? ['\x27'] cs with
  | none => .error (Failure.text s!"Component {String.ofList cs} must be hardened")
  | some digits => (Number.readUInt32 digits).mapError fun e => Failure.text e.message

def read (s : String) : Except Failure DerivationPath :=
  inContext s!"Invalid derivation path {Quoted.write s}" <|
    match Text.strip? head.toList s.toList with
    | none => .error (Failure.text "Path must start with m/44'/")
    | some rest =>
      match Text.split '/' rest with
      | [coinType, account, ['0'], index] => do
        let coinType ← readMarked coinType
        let account ← readMarked account
        let index ← (Number.readUInt32 index).mapError fun e => Failure.text e.message
        return ⟨coinType, account, index⟩
      | _ => .error (Failure.text "Expected coin_type'/account'/0/index")

/-- The number from which on steps are marked. -/
def marked : Nat := 0x80000000

/-- The step of a number, which must be small enough to be marked. -/
def step (n : UInt32) : Except Failure Nat :=
  if n.toNat < marked then .ok n.toNat
  else
    .error (Failure.text
      s!"child number {Number.write n.toNat} is invalid (not within [0, 2^31 - 1])")

/-- The steps of a path. -/
def steps (p : DerivationPath) : Except Failure (List Nat) :=
  inContext s!"Generated an invalid derivation path: {p.write}" do
    let coinType ← step p.coinType
    let account ← step p.account
    let index ← step p.index
    return [marked + 44, marked + coinType, marked + account, 0, index]

end DerivationPath
end CosmosClient
