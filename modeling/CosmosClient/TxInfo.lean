import CosmosClient.Event
import CosmosClient.Timestamp
import CosmosClient.Tx

/-!
# Executed transactions

What a chain reports on a transaction in a block. A transaction without a code succeeded.
-/

namespace CosmosClient

/-- A transaction in a block. -/
structure TxInfo where
  height : Int64
  txhash : String
  rawLog : String
  logs : Option (List MessageLog)
  gasWanted : Int64
  gasUsed : Int64
  tx : Tx
  timestamp : String
  /-- The events of the whole transaction, which newer nodes report instead of logs. -/
  events : List Event
  /-- Why the transaction failed. -/
  code : Option UInt32
  codespace : Option String
  deriving BEq

namespace TxInfo

def isSuccess (info : TxInfo) : Bool := info.code.isNone

def time (info : TxInfo) : Except Failure Timestamp :=
  match Timestamp.read? info.timestamp.toList with
  | some t => .ok t
  | none =>
    .error ⟨[s!"Invalid transaction timestamp {Quoted.write info.timestamp}"], .timestamp⟩

/-- The values of a kind of event and key over all messages, or over the whole transaction if there
are no logs. -/
def values (info : TxInfo) (kind key : String) : List String :=
  match info.logs with
  | some logs => logs.flatMap fun l => l.values kind key
  | none => (info.events.filter fun e => e.kind == kind).flatMap fun e => e.values key

def ofProto (p : Proto.TxResponse) : Except ParseError TxInfo :=
  match p.tx with
  | none => .error (.missingField "tx" "TxResponse")
  | some any =>
    if any.typeUrl ≠ Tx.typeUrl then .error (.invalidValue "tx.type_url" any.typeUrl)
    else do
      let tx ← Tx.ofBytes any.value
      let events ← p.events.mapM Event.ofProtoBytes
      return {
        height := p.height
        txhash := p.txhash
        rawLog := p.rawLog
        logs := MessageLog.listOfProto p.logs
        gasWanted := p.gasWanted
        gasUsed := p.gasUsed
        tx
        timestamp := p.timestamp
        events
        code := if p.code = 0 then none else some p.code
        codespace := if p.codespace = "" then none else some p.codespace }

def toProto (info : TxInfo) : Except ParseError Proto.TxResponse := do
  let b ← info.tx.toBytes
  let events ← info.events.mapM Event.toProtoBytes
  return {
    height := info.height
    txhash := info.txhash
    codespace := info.codespace.getD ""
    code := info.code.getD 0
    rawLog := info.rawLog
    logs := (info.logs.getD []).map MessageLog.toProto
    gasWanted := info.gasWanted
    gasUsed := info.gasUsed
    tx := some ⟨Tx.typeUrl, b⟩
    timestamp := info.timestamp
    events }

/-- The report in a JSON document; what is not there is left out. -/
def toJson (info : TxInfo) : Except ParseError Json :=
  info.tx.toJson.map fun tx =>
    .obj ([("height", .str (Number.writeInt info.height.toInt)), ("txhash", .str info.txhash),
        ("raw_log", .str info.rawLog)] ++
      (info.logs.toList.map fun logs => ("logs", .arr (logs.map MessageLog.toJson))) ++
      [("gas_wanted", .str (Number.writeInt info.gasWanted.toInt)),
        ("gas_used", .str (Number.writeInt info.gasUsed.toInt)), ("tx", tx),
        ("timestamp", .str info.timestamp)] ++
      (if info.events.isEmpty then [] else [("events", .arr (info.events.map Event.toJson))]) ++
      (info.code.toList.map fun code => ("code", .int code.toNat)) ++
      (info.codespace.toList.map fun codespace => ("codespace", .str codespace)))

/-- What has been read of a report. -/
structure Draft where
  height : Option Int64 := none
  txhash : Option String := none
  rawLog : String := ""
  logs : Option (List MessageLog) := none
  gasWanted : Option Int64 := none
  gasUsed : Option Int64 := none
  tx : Option Tx := none
  timestamp : Option String := none
  events : List Event := []
  code : Option UInt32 := none
  codespace : Option String := none

/-- Reads logs from a JSON document; `null` and an empty list mean none. -/
def logsOfJson : Json.Decoder (Option (List MessageLog)) := fun j => do
  let logs ← Json.nullable [] (Json.list Json.any) j
  (MessageLog.listOfJson logs).mapError fun _ => .data

def ofJson : Json.Decoder TxInfo := fun j => do
  let d ← Json.record
    [Json.slot "height" false Json.looseInt64 fun x d => { d with height := some x },
      Json.slot "txhash" false Json.text fun x d => { d with txhash := some x },
      Json.slot "raw_log" true Json.text fun x d => { d with rawLog := x },
      Json.slot "logs" true logsOfJson fun x d => { d with logs := x },
      Json.slot "gas_wanted" false Json.looseInt64 fun x d => { d with gasWanted := some x },
      Json.slot "gas_used" false Json.looseInt64 fun x d => { d with gasUsed := some x },
      Json.slot "tx" false Tx.ofJson fun x d => { d with tx := some x },
      Json.slot "timestamp" false Json.text fun x d => { d with timestamp := some x },
      Json.slot "events" true (Json.list Event.ofJson) fun x d => { d with events := x },
      Json.slot "code" true (Json.nullable 0 Json.uint32)
        fun x d => { d with code := if x = 0 then none else some x },
      Json.slot "codespace" true (Json.nullable "" Json.text)
        fun x d => { d with codespace := if x = "" then none else some x }]
    ({} : Draft) j
  return {
    height := ← Json.require d.height
    txhash := ← Json.require d.txhash
    rawLog := d.rawLog
    logs := d.logs
    gasWanted := ← Json.require d.gasWanted
    gasUsed := ← Json.require d.gasUsed
    tx := ← Json.require d.tx
    timestamp := ← Json.require d.timestamp
    events := d.events
    code := d.code
    codespace := d.codespace }

end TxInfo
end CosmosClient
