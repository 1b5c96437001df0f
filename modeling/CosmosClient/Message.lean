import CosmosClient.Fee
import CosmosClient.Proto.Messages

/-!
# Messages

What a transaction does. Six kinds of message are known. Any other is kept as it arrived: encoded,
and then it has no JSON form, or in JSON, and then it has no encoding.
-/

namespace CosmosClient

/-- Coins of an account. -/
structure Party where
  address : String
  coins : Coins
  deriving DecidableEq

/-- A message of a transaction. -/
inductive Message where
  /-- Coins from one account to another. -/
  | send (source target : String) (amount : Coins)
  /-- Coins from several accounts to several others; the sums must match. -/
  | multiSend (inputs outputs : List Party)
  /-- Coins of an account put on a validator. -/
  | delegate (delegator validator : String) (amount : Coin)
  /-- Coins of an account taken from a validator. -/
  | undelegate (delegator validator : String) (amount : Coin)
  /-- Coins of an account moved from one validator to another. -/
  | redelegate (delegator source target : String) (amount : Coin)
  /-- Rewards of an account claimed from a validator. -/
  | withdrawReward (delegator validator : String)
  /-- An encoded message of another type. -/
  | encoded (any : Proto.Any)
  /-- A JSON message of another type. -/
  | json (value : Json)
  deriving BEq

namespace Message

/-- The known kinds. -/
inductive Kind where
  | send
  | multiSend
  | delegate
  | undelegate
  | redelegate
  | withdrawReward
  deriving DecidableEq, Repr

namespace Kind

def all : List Kind := [.send, .multiSend, .delegate, .undelegate, .redelegate, .withdrawReward]

def typeUrl : Kind → String
  | .send => "/cosmos.bank.v1beta1.MsgSend"
  | .multiSend => "/cosmos.bank.v1beta1.MsgMultiSend"
  | .delegate => "/cosmos.staking.v1beta1.MsgDelegate"
  | .undelegate => "/cosmos.staking.v1beta1.MsgUndelegate"
  | .redelegate => "/cosmos.staking.v1beta1.MsgBeginRedelegate"
  | .withdrawReward => "/cosmos.distribution.v1beta1.MsgWithdrawDelegatorReward"

/-- The name of a kind in the documents of legacy signing. -/
def aminoName : Kind → String
  | .send => "cosmos-sdk/MsgSend"
  | .multiSend => "cosmos-sdk/MsgMultiSend"
  | .delegate => "cosmos-sdk/MsgDelegate"
  | .undelegate => "cosmos-sdk/MsgUndelegate"
  | .redelegate => "cosmos-sdk/MsgBeginRedelegate"
  | .withdrawReward => "cosmos-sdk/MsgWithdrawDelegationReward"

def ofTypeUrl? (url : String) : Option Kind :=
  all.find? fun kind => kind.typeUrl == url

end Kind

/-- The type that a JSON message names, or nothing. -/
def jsonTypeUrl? (value : Json) : Option String :=
  (value.field? "@type").bind Json.text?

def kind? : Message → Option Kind
  | .send .. => some .send
  | .multiSend .. => some .multiSend
  | .delegate .. => some .delegate
  | .undelegate .. => some .undelegate
  | .redelegate .. => some .redelegate
  | .withdrawReward .. => some .withdrawReward
  | .encoded _ | .json _ => none

def typeUrl : Message → String
  | .encoded any => any.typeUrl
  | .json value => (jsonTypeUrl? value).getD ""
  | m => (m.kind?.map Kind.typeUrl).getD ""

/-- A message in words. -/
def describe : Message → String
  | .send source target amount => s!"{source} sending {amount.write} to {target}"
  | .multiSend inputs outputs =>
    let total := outputs.foldl (fun sum party => sum.add party.coins) Coins.empty
    let names (parties : List Party) : String := Text.join ", " (parties.map (·.address))
    s!"{names inputs} sending {total.write} to {names outputs}"
  | .delegate delegator validator amount => s!"{delegator} delegating {amount.write} to {validator}"
  | .undelegate delegator validator amount =>
    s!"{delegator} undelegating {amount.write} from {validator}"
  | .redelegate delegator source target amount =>
    s!"{delegator} redelegating {amount.write} from {source} to {target}"
  | .withdrawReward delegator validator => s!"{delegator} withdrawing rewards from {validator}"
  | m => s!"Message of type {m.typeUrl}"

def partyToProto (p : Party) : Proto.Party := ⟨p.address, p.coins.toProto⟩

def partyOfProto (p : Proto.Party) : Except ParseError Party :=
  (Coins.ofProto p.coins).map fun coins => ⟨p.address, coins⟩

/-- The encoding of a message; a JSON message of another type has none. -/
def toAny : Message → Except ParseError Proto.Any
  | .send source target amount =>
    .ok ⟨Kind.send.typeUrl, (Proto.MsgSend.mk source target amount.toProto).bytes⟩
  | .multiSend inputs outputs =>
    .ok ⟨Kind.multiSend.typeUrl,
      (Proto.MsgMultiSend.mk (inputs.map partyToProto) (outputs.map partyToProto)).bytes⟩
  | .delegate delegator validator amount =>
    .ok ⟨Kind.delegate.typeUrl, (Proto.MsgDelegate.mk delegator validator amount.toProto).bytes⟩
  | .undelegate delegator validator amount =>
    .ok ⟨Kind.undelegate.typeUrl, (Proto.MsgDelegate.mk delegator validator amount.toProto).bytes⟩
  | .redelegate delegator source target amount =>
    .ok ⟨Kind.redelegate.typeUrl,
      (Proto.MsgBeginRedelegate.mk delegator source target amount.toProto).bytes⟩
  | .withdrawReward delegator validator =>
    .ok ⟨Kind.withdrawReward.typeUrl,
      (Proto.MsgWithdrawDelegatorReward.mk delegator validator).bytes⟩
  | .encoded any => .ok any
  | .json value => .error (.unsupportedMessage ((jsonTypeUrl? value).getD ""))

/-- The amount of a message about a validator, which must be there. -/
def requiredAmount (amount : Option Proto.Coin) (context : String) : Except ParseError Coin :=
  match amount with
  | none => .error (.missingField "amount" context)
  | some c => Coins.coinOfProto c

/-- Reads the encoding of a message of a known kind. -/
def ofValue (kind : Kind) (url : String) (value : Bytes) : Except ParseError Message :=
  let decoded {α : Type} (r : Except Wire.Error α) : Except ParseError α :=
    r.mapError fun e => .decode url e
  match kind with
  | .send => do
    let m ← decoded (Proto.decode Proto.MsgSend.merge {} value)
    return .send m.fromAddress m.toAddress (← Coins.ofProto m.amount)
  | .multiSend => do
    let m ← decoded (Proto.decode Proto.MsgMultiSend.merge {} value)
    return .multiSend (← m.inputs.mapM partyOfProto) (← m.outputs.mapM partyOfProto)
  | .delegate => do
    let m ← decoded (Proto.decode (Proto.MsgDelegate.merge "MsgDelegate") {} value)
    return .delegate m.delegatorAddress m.validatorAddress (← requiredAmount m.amount "MsgDelegate")
  | .undelegate => do
    let m ← decoded (Proto.decode (Proto.MsgDelegate.merge "MsgUndelegate") {} value)
    return .undelegate m.delegatorAddress m.validatorAddress
      (← requiredAmount m.amount "MsgUndelegate")
  | .redelegate => do
    let m ← decoded (Proto.decode Proto.MsgBeginRedelegate.merge {} value)
    return .redelegate m.delegatorAddress m.sourceAddress m.destinationAddress
      (← requiredAmount m.amount "MsgBeginRedelegate")
  | .withdrawReward => do
    let m ← decoded (Proto.decode Proto.MsgWithdrawDelegatorReward.merge {} value)
    return .withdrawReward m.delegatorAddress m.validatorAddress

def ofAny (any : Proto.Any) : Except ParseError Message :=
  match Kind.ofTypeUrl? any.typeUrl with
  | some kind => ofValue kind any.typeUrl any.value
  | none => .ok (.encoded any)

def partyToJson (p : Party) : Json :=
  .obj [("address", .str p.address), ("coins", p.coins.toJson.normal)]

/-- The fields of a known message, sorted by key; none for other messages. -/
def fields : Message → List (String × Json)
  | .send source target amount =>
    [("amount", amount.toJson.normal), ("from_address", .str source), ("to_address", .str target)]
  | .multiSend inputs outputs =>
    [("inputs", .arr (inputs.map partyToJson)), ("outputs", .arr (outputs.map partyToJson))]
  | .delegate delegator validator amount | .undelegate delegator validator amount =>
    [("amount", amount.toJson.normal), ("delegator_address", .str delegator),
      ("validator_address", .str validator)]
  | .redelegate delegator source target amount =>
    [("amount", amount.toJson.normal), ("delegator_address", .str delegator),
      ("validator_dst_address", .str target), ("validator_src_address", .str source)]
  | .withdrawReward delegator validator =>
    [("delegator_address", .str delegator), ("validator_address", .str validator)]
  | .encoded _ | .json _ => []

/-- The JSON form of a message, with its type among its fields; an encoded message of another type
has none. -/
def toJson : Message → Except ParseError Json
  | .encoded any => .error (.unsupportedMessage any.typeUrl)
  | .json value => .ok value
  | m => .ok (.obj (("@type", .str m.typeUrl) :: m.fields))

/-- The form of a message in the documents of legacy signing; only known messages have one. -/
def toAminoJson (m : Message) : Except ParseError Json :=
  match m.kind? with
  | some kind => .ok (.obj [("type", .str kind.aminoName), ("value", .obj m.fields)])
  | none => .error (.unsupportedMessage m.typeUrl)

def partyOfJson : Json.Decoder Party := fun j => do
  let (address, coins) ← Json.record
    [Json.slot "address" false Json.text fun x s => (some x, s.2),
      Json.slot "coins" false Coins.ofJson fun x s => (s.1, some x)]
    ((none : Option String), (none : Option Coins)) j
  return ⟨← Json.require address, ← Json.require coins⟩

/-- Reads a message about a validator. -/
def stakeOfJson (make : String → String → Coin → Message) : Json.Decoder Message := fun j => do
  let (delegator, validator, amount) ← Json.record
    [Json.slot "delegator_address" false Json.text fun x s => (some x, s.2),
      Json.slot "validator_address" false Json.text fun x s => (s.1, some x, s.2.2),
      Json.slot "amount" false Coin.ofJson fun x s => (s.1, s.2.1, some x)]
    ((none : Option String), (none : Option String), (none : Option Coin)) j
  return make (← Json.require delegator) (← Json.require validator) (← Json.require amount)

/-- Reads a message of a known kind from its fields. -/
def ofFields : Kind → Json.Decoder Message
  | .send => fun j => do
    let (source, target, amount) ← Json.record
      [Json.slot "from_address" false Json.text fun x s => (some x, s.2),
        Json.slot "to_address" false Json.text fun x s => (s.1, some x, s.2.2),
        Json.slot "amount" false Coins.ofJson fun x s => (s.1, s.2.1, some x)]
      ((none : Option String), (none : Option String), (none : Option Coins)) j
    return .send (← Json.require source) (← Json.require target) (← Json.require amount)
  | .multiSend => fun j => do
    let (inputs, outputs) ← Json.record
      [Json.slot "inputs" false (Json.list partyOfJson) fun x s => (some x, s.2),
        Json.slot "outputs" false (Json.list partyOfJson) fun x s => (s.1, some x)]
      ((none : Option (List Party)), (none : Option (List Party))) j
    return .multiSend (← Json.require inputs) (← Json.require outputs)
  | .delegate => stakeOfJson .delegate
  | .undelegate => stakeOfJson .undelegate
  | .redelegate => fun j => do
    let (delegator, source, target, amount) ← Json.record
      [Json.slot "delegator_address" false Json.text fun x s => (some x, s.2),
        Json.slot "validator_src_address" false Json.text fun x s => (s.1, some x, s.2.2),
        Json.slot "validator_dst_address" false Json.text fun x s => (s.1, s.2.1, some x, s.2.2.2),
        Json.slot "amount" false Coin.ofJson fun x s => (s.1, s.2.1, s.2.2.1, some x)]
      ((none : Option String), (none : Option String), (none : Option String),
        (none : Option Coin)) j
    return .redelegate (← Json.require delegator) (← Json.require source) (← Json.require target)
      (← Json.require amount)
  | .withdrawReward => fun j => do
    let (delegator, validator) ← Json.record
      [Json.slot "delegator_address" false Json.text fun x s => (some x, s.2),
        Json.slot "validator_address" false Json.text fun x s => (s.1, some x)]
      ((none : Option String), (none : Option String)) j
    return .withdrawReward (← Json.require delegator) (← Json.require validator)

/-- The value without the field that names its type. -/
def withoutType : Json → Json
  | .obj fields => .obj (fields.filter fun (key, _) => key != "@type")
  | j => j

def ofJson (value : Json) : Except ParseError Message :=
  match jsonTypeUrl? value with
  | none => .error (.missingField "@type" "message")
  | some url =>
    match Kind.ofTypeUrl? url with
    | some kind =>
      (Json.settle .data (ofFields kind (withoutType value))).mapError fun fault =>
        .json kind.typeUrl fault
    | none => .ok (.json value)

/-- Reads a message from a JSON document. -/
def decode : Json.Decoder Message := fun j => do
  let value ← Json.any j
  (ofJson value).mapError fun _ => .data

end Message
end CosmosClient
