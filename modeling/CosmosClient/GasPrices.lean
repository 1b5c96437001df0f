import CosmosClient.Coins

/-!
# Gas prices

The price of a unit of gas in each of several denominations, in the order of the denominations.
-/

namespace CosmosClient

/-- A price per denomination. -/
structure GasPrices where
  toList : List (String × Float)
  deriving BEq, Repr

namespace GasPrices

/-- Sets the price of a denomination among prices sorted by denomination. -/
def insert (denom : String) (price : Float) : List (String × Float) → List (String × Float)
  | [] => [(denom, price)]
  | (d, p) :: rest =>
    if denom < d then (denom, price) :: (d, p) :: rest
    else if denom = d then (denom, price) :: rest
    else (d, p) :: insert denom price rest

/-- Prices, of a repeated denomination the last. -/
def ofList (prices : List (String × Float)) : GasPrices :=
  ⟨prices.foldl (fun sorted (denom, price) => insert denom price sorted) []⟩

def single (denom : String) (price : Float) : GasPrices :=
  ⟨[(denom, price)]⟩

/-- Every price multiplied by a factor. -/
def scaled (prices : GasPrices) (factor : Float) : GasPrices :=
  ⟨prices.toList.map fun (denom, price) => (denom, price * factor)⟩

/-- The price of an amount of gas, rounded up to a whole amount. -/
def amountFor (gas : UInt64) (price : Float) : Amount :=
  Amount.clamp (Binary.clamp Amount.max (Binary.ofFloat (gas.toFloat * price).ceil))

/-- The fee for an amount of gas in the given denominations, or in all. -/
def feeFor (prices : GasPrices) (gas : UInt64) (denoms : Option (List String)) : Coins :=
  let chosen := prices.toList.filter fun (denom, _) => denoms.all fun ds => ds.contains denom
  Coins.ofList (chosen.map fun (denom, price) => ⟨denom, amountFor gas price⟩)

/-- Reads the price of one denomination. -/
def readPrice (cs : List Char) : Except Failure (String × Float) :=
  inContext s!"Could not parse gas price {Quoted.write (String.ofList cs)}" do
    let (price, denom) ← Denom.split (fun c => c.isDigit || c == '.') cs
    match Decimal.read? price with
    | none => .error (Failure.text "invalid float literal")
    | some x =>
      if x.isFinite ∧ 0.0 ≤ x then .ok (String.ofList denom, x)
      else .error (Failure.text "Invalid gas price")

/-- Reads prices with commas between them; blanks around them and empty pieces do not count. -/
def read (cs : List Char) : Except Failure GasPrices :=
  let pieces := ((Text.split ',' cs).map Text.trim).filter fun piece => ¬piece.isEmpty
  (pieces.mapM readPrice).map ofList

def write (prices : GasPrices) : String :=
  Text.join "," (prices.toList.map fun (denom, price) => Decimal.write price ++ denom)

end GasPrices
end CosmosClient
