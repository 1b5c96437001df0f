import CosmosClient.Proto.Basic

/-!
# Messages of the bank, staking and distribution modules
-/

namespace CosmosClient.Proto

/-- Coins from one account to another. -/
structure MsgSend where
  fromAddress : String := ""
  toAddress : String := ""
  amount : List Coin := []
  deriving DecidableEq, Repr, Inhabited

namespace MsgSend

def bytes (m : MsgSend) : Bytes :=
  Wire.encode (Wire.text 1 m.fromAddress ++ Wire.text 2 m.toAddress ++ coinFields 3 m.amount)

def slots : List (Wire.Slot MsgSend) :=
  [Wire.textSlot 1 "from_address" fun x m => { m with fromAddress := x },
    Wire.textSlot 2 "to_address" fun x m => { m with toAddress := x },
    coinsSlot 3 "amount" fun c m => { m with amount := m.amount ++ [c] }]

def merge : Wire.Merge MsgSend := Wire.merge "MsgSend" slots

end MsgSend

/-- Coins of an account. -/
structure Party where
  address : String := ""
  coins : List Coin := []
  deriving DecidableEq, Repr, Inhabited

namespace Party

def bytes (p : Party) : Bytes :=
  Wire.encode (Wire.text 1 p.address ++ coinFields 2 p.coins)

def slots : List (Wire.Slot Party) :=
  [Wire.textSlot 1 "address" fun x p => { p with address := x },
    coinsSlot 2 "coins" fun c p => { p with coins := p.coins ++ [c] }]

/-- Reads encoded fields into a message of the given name. -/
def merge (name : String) : Wire.Merge Party := Wire.merge name slots

end Party

/-- Coins from several accounts to several others. -/
structure MsgMultiSend where
  inputs : List Party := []
  outputs : List Party := []
  deriving DecidableEq, Repr, Inhabited

namespace MsgMultiSend

def bytes (m : MsgMultiSend) : Bytes :=
  Wire.encode (Wire.items 1 (m.inputs.map Party.bytes) ++ Wire.items 2 (m.outputs.map Party.bytes))

def slots : List (Wire.Slot MsgMultiSend) :=
  [Wire.listSlot 1 "inputs" {} (Party.merge "Input")
      fun p m => { m with inputs := m.inputs ++ [p] },
    Wire.listSlot 2 "outputs" {} (Party.merge "Output")
      fun p m => { m with outputs := m.outputs ++ [p] }]

def merge : Wire.Merge MsgMultiSend :=
  Wire.merge "MsgMultiSend" slots

end MsgMultiSend

/-- An amount that an account puts on a validator or takes from it. -/
structure MsgDelegate where
  delegatorAddress : String := ""
  validatorAddress : String := ""
  amount : Option Coin := none
  deriving DecidableEq, Repr, Inhabited

namespace MsgDelegate

def bytes (m : MsgDelegate) : Bytes :=
  Wire.encode (Wire.text 1 m.delegatorAddress ++ Wire.text 2 m.validatorAddress ++
    Wire.items 3 (m.amount.toList.map Coin.bytes))

def slots : List (Wire.Slot MsgDelegate) :=
  [Wire.textSlot 1 "delegator_address" fun x m => { m with delegatorAddress := x },
    Wire.textSlot 2 "validator_address" fun x m => { m with validatorAddress := x },
    Wire.optionSlot 3 "amount" {} Coin.merge (·.amount) fun c m => { m with amount := some c }]

/-- Reads encoded fields into a message of the given name. -/
def merge (name : String) : Wire.Merge MsgDelegate :=
  Wire.merge name slots

end MsgDelegate

/-- An amount that moves from one validator to another. -/
structure MsgBeginRedelegate where
  delegatorAddress : String := ""
  sourceAddress : String := ""
  destinationAddress : String := ""
  amount : Option Coin := none
  deriving DecidableEq, Repr, Inhabited

namespace MsgBeginRedelegate

def bytes (m : MsgBeginRedelegate) : Bytes :=
  Wire.encode (Wire.text 1 m.delegatorAddress ++ Wire.text 2 m.sourceAddress ++
    Wire.text 3 m.destinationAddress ++ Wire.items 4 (m.amount.toList.map Coin.bytes))

def slots : List (Wire.Slot MsgBeginRedelegate) :=
  [Wire.textSlot 1 "delegator_address" fun x m => { m with delegatorAddress := x },
    Wire.textSlot 2 "validator_src_address" fun x m => { m with sourceAddress := x },
    Wire.textSlot 3 "validator_dst_address" fun x m => { m with destinationAddress := x },
    Wire.optionSlot 4 "amount" {} Coin.merge (·.amount) fun c m => { m with amount := some c }]

def merge : Wire.Merge MsgBeginRedelegate :=
  Wire.merge "MsgBeginRedelegate" slots

end MsgBeginRedelegate

/-- Rewards of an account from a validator. -/
structure MsgWithdrawDelegatorReward where
  delegatorAddress : String := ""
  validatorAddress : String := ""
  deriving DecidableEq, Repr, Inhabited

namespace MsgWithdrawDelegatorReward

def bytes (m : MsgWithdrawDelegatorReward) : Bytes :=
  Wire.encode (Wire.text 1 m.delegatorAddress ++ Wire.text 2 m.validatorAddress)

def slots : List (Wire.Slot MsgWithdrawDelegatorReward) :=
  [Wire.textSlot 1 "delegator_address" fun x m => { m with delegatorAddress := x },
    Wire.textSlot 2 "validator_address" fun x m => { m with validatorAddress := x }]

def merge :
    Wire.Merge MsgWithdrawDelegatorReward :=
  Wire.merge "MsgWithdrawDelegatorReward" slots

end MsgWithdrawDelegatorReward
end CosmosClient.Proto
