import CosmosClient.Client.Basic
import CosmosClient.Coins

/-!
# Balances

The coins of an account come in pages, each but the last with the key of the next one.
-/

namespace CosmosClient.Client

/-- A page of coins. -/
structure BalancePage where
  balances : List Coin
  /-- The key of the next page, unless this is the last one. -/
  nextKey : Option String
  deriving DecidableEq, Repr

namespace BalancePage

/-- Reads the key of the next page; an empty one is none. -/
def nextKeyOfJson : Json.Decoder (Option String) := fun j => do
  let key ← Json.record
    [Json.slot "next_key" true (Json.optional Json.text) fun x _ => x] (none : Option String) j
  return key.filter fun key => key ≠ ""

def ofJson : Json.Decoder BalancePage := fun j => do
  let (balances, key) ← Json.record
    [Json.slot "balances" false (Json.list Coin.ofJson) fun x s => (some x, s.2),
      Json.slot "pagination" true (Json.optional nextKeyOfJson) fun x s => (s.1, x)]
    ((none : Option (List Coin)), (none : Option (Option String))) j
  return ⟨← Json.require balances, key.join⟩

end BalancePage

/-- The request for a page. -/
def balanceRequest (address : String) (height : Option UInt64) (key : Option String) : Request :=
  { path := "/cosmos/bank/v1beta1/balances/" ++ address
    query := key.toList.map fun key => ("pagination.key", key)
    height }

/-- Adds the coins of the page with a key and of those after it, but of no more pages than a limit;
nothing if there are more. -/
def balanceFrom (address : String) (height : Option UInt64) :
    Nat → Option String → Coins → ExceptT RequestError Program (Option Coins)
  | 0, _, _ => return none
  | limit + 1, key, sum => do
    let page ← fetch BalancePage.ofJson (balanceRequest address height key)
    let sum := page.balances.foldl Coins.addCoin sum
    match page.nextKey with
    | none => return some sum
    | some key => balanceFrom address height limit (some key) sum

/-- The coins of an account, now or after an earlier block, if they come in no more pages than a
limit. -/
def balance (limit : Nat) (address : String) (height : Option UInt64) :
    ExceptT RequestError Program (Option Coins) :=
  balanceFrom address height limit none Coins.empty

end CosmosClient.Client
