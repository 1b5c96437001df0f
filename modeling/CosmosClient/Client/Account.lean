import CosmosClient.Client.Basic
import CosmosClient.PublicKey

/-!
# Accounts

What an endpoint knows of an account. Accounts of other kinds are wrapped around a base account.
-/

namespace CosmosClient

/-- An account on a chain. -/
structure Account where
  address : String
  /-- The key, once the account has signed; unknown kinds of key do not count. -/
  publicKey : Option PublicKey
  number : UInt64
  sequence : UInt64
  deriving DecidableEq, Repr

namespace Account

/-- The base account within an account. -/
def base (account : Json) : Json :=
  match (account.field? "base_vesting_account").bind (Json.field? "base_account") with
  | some j => j
  | none => (account.field? "base_account").getD account

/-- What has been read of an account. -/
structure Draft where
  address : Option String := none
  publicKey : Option Json := none
  number : Option UInt64 := none
  sequence : Option UInt64 := none

/-- Reads a base account. -/
def ofBaseJson : Json.Decoder Account := fun j => do
  let d ← Json.record
    [Json.slot "address" false Json.text fun x d => { d with address := some x },
      Json.slot "pub_key" true (Json.optional Json.any) fun x d => { d with publicKey := x },
      Json.slot "account_number" false Json.looseUInt64 fun x d => { d with number := some x },
      Json.slot "sequence" false Json.looseUInt64 fun x d => { d with sequence := some x }]
    ({} : Draft) j
  return {
    address := ← Json.require d.address
    publicKey := d.publicKey.bind fun key => (Json.decodeValue PublicKey.ofJson key).toOption
    number := ← Json.require d.number
    sequence := ← Json.require d.sequence }

def ofJson (account : Json) : Except Json.Fault Account :=
  Json.decodeValue ofBaseJson (base account)

end Account

namespace Client

/-- Reads the account in an answer, of whatever kind. -/
def accountOfJson : Json.Decoder Json := fun j => do
  Json.require (← Json.record [Json.slot "account" false Json.any fun x _ => some x] none j)

def accountPath (address : String) : String :=
  "/cosmos/auth/v1beta1/accounts/" ++ address

def account (address : String) : ExceptT RequestError Program Account := do
  let j ← get accountOfJson (accountPath address)
  match Account.ofJson j with
  | .ok a => return a
  | .error _ => throw (.invalidJson (accountPath address) "")

end Client
end CosmosClient
