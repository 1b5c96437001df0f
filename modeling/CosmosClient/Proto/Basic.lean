import CosmosClient.Wire.Decode

/-!
# Shared messages

Messages as they stand on the wire. Each comes with its fields and with the slots that read them.
-/

namespace CosmosClient.Proto

/-- A message of any type, encoded. -/
structure Any where
  typeUrl : String := ""
  value : Bytes := []
  deriving DecidableEq, Repr, Inhabited

namespace Any

def fields (a : Any) : List Wire.Field :=
  Wire.text 1 a.typeUrl ++ Wire.bytes 2 a.value

def bytes (a : Any) : Bytes := Wire.encode a.fields

def slots : List (Wire.Slot Any) :=
  [Wire.textSlot 1 "type_url" fun x a => { a with typeUrl := x },
    Wire.bytesSlot 2 "value" fun x a => { a with value := x }]

def merge : Wire.Merge Any := Wire.merge "Any" slots

end Any

/-- An amount of a denomination, in decimal. -/
structure Coin where
  denom : String := ""
  amount : String := ""
  deriving DecidableEq, Repr, Inhabited

namespace Coin

def fields (c : Coin) : List Wire.Field :=
  Wire.text 1 c.denom ++ Wire.text 2 c.amount

def bytes (c : Coin) : Bytes := Wire.encode c.fields

def slots : List (Wire.Slot Coin) :=
  [Wire.textSlot 1 "denom" fun x c => { c with denom := x },
    Wire.textSlot 2 "amount" fun x c => { c with amount := x }]

def merge : Wire.Merge Coin := Wire.merge "Coin" slots

end Coin

/-- Coins under a field number. -/
def coinFields (k : Nat) (coins : List Coin) : List Wire.Field :=
  Wire.items k (coins.map Coin.bytes)

/-- A slot for coins. -/
def coinsSlot {σ : Type} (k : Nat) (name : String) (push : Coin → σ → σ) : Wire.Slot σ :=
  Wire.listSlot k name {} Coin.merge push

/-- Decodes a message from all of its bytes. -/
def decode {σ : Type} (merge : Wire.Merge σ) (start : σ) (b : Bytes) : Except Wire.Error σ :=
  (merge Wire.maxNesting 0 b start).map (·.1)

end CosmosClient.Proto
