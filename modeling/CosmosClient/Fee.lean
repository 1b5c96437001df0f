import CosmosClient.Coins
import CosmosClient.Proto.Tx

/-!
# Fees
-/

namespace CosmosClient

/-- The amount paid for a transaction and the gas it may use. -/
structure Fee where
  amount : Coins
  gasLimit : UInt64
  /-- The account that pays, or empty for the first signer. -/
  payer : String
  /-- The account that grants the fee, or empty for none. -/
  granter : String
  deriving DecidableEq

namespace Coins

def toProto (cs : Coins) : List Proto.Coin :=
  cs.toList.map fun c => ⟨c.denom, c.amount.write⟩

/-- A coin from a message. -/
def coinOfProto (c : Proto.Coin) : Except ParseError Coin :=
  match Amount.read c.amount.toList with
  | .ok amount => .ok ⟨c.denom, amount⟩
  | .error _ => .error (.invalidCoinAmount c.denom c.amount)

def ofProto (coins : List Proto.Coin) : Except ParseError Coins :=
  (coins.mapM coinOfProto).map ofList

end Coins

def Coin.toProto (c : Coin) : Proto.Coin := ⟨c.denom, c.amount.write⟩

namespace Fee

/-- A fee that the first signer pays. -/
def ofGas (gasLimit : UInt64) (amount : Coins) : Fee := ⟨amount, gasLimit, "", ""⟩

def toProto (f : Fee) : Proto.Fee := ⟨f.amount.toProto, f.gasLimit, f.payer, f.granter⟩

def ofProto (p : Proto.Fee) : Except ParseError Fee :=
  (Coins.ofProto p.amount).map fun amount => ⟨amount, p.gasLimit, p.payer, p.granter⟩

def toAminoJson (f : Fee) : Json :=
  .obj ([("amount", f.amount.toJson), ("gas", .str (Number.write f.gasLimit.toNat))] ++
    (if f.granter = "" then [] else [("granter", .str f.granter)]) ++
    (if f.payer = "" then [] else [("payer", .str f.payer)]))

def toJson (f : Fee) : Json :=
  .obj [("amount", f.amount.toJson), ("gas_limit", .str (Number.write f.gasLimit.toNat)),
    ("payer", .str f.payer), ("granter", .str f.granter)]

/-- What has been read of a fee. -/
structure Draft where
  amount : Option Coins := none
  gasLimit : Option UInt64 := none
  payer : String := ""
  granter : String := ""

def ofJson : Json.Decoder Fee := fun j => do
  let d ← Json.record
    [Json.slot "amount" false Coins.ofJson fun x d => { d with amount := some x },
      Json.slot "gas_limit" false Json.looseUInt64 fun x d => { d with gasLimit := some x },
      Json.slot "payer" true Json.text fun x d => { d with payer := x },
      Json.slot "granter" true Json.text fun x d => { d with granter := x }]
    ({} : Draft) j
  return ⟨← Json.require d.amount, ← Json.require d.gasLimit, d.payer, d.granter⟩

end Fee
end CosmosClient
