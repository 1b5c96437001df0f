import CosmosClient.Proto.Basic

/-!
# Messages that report on an executed transaction
-/

namespace CosmosClient.Proto

/-- A key and a value, both text. -/
structure Attribute where
  key : String := ""
  value : String := ""
  deriving DecidableEq, Repr, Inhabited

namespace Attribute

def bytes (a : Attribute) : Bytes := Wire.encode (Wire.text 1 a.key ++ Wire.text 2 a.value)

def slots : List (Wire.Slot Attribute) :=
  [Wire.textSlot 1 "key" fun x a => { a with key := x },
    Wire.textSlot 2 "value" fun x a => { a with value := x }]

def merge : Wire.Merge Attribute := Wire.merge "Attribute" slots

end Attribute

/-- An event whose attributes are text. -/
structure StringEvent where
  kind : String := ""
  attributes : List Attribute := []
  deriving DecidableEq, Repr, Inhabited

namespace StringEvent

def bytes (e : StringEvent) : Bytes :=
  Wire.encode (Wire.text 1 e.kind ++ Wire.items 2 (e.attributes.map Attribute.bytes))

def slots : List (Wire.Slot StringEvent) :=
  [Wire.textSlot 1 "r#type" fun x e => { e with kind := x },
    Wire.listSlot 2 "attributes" {} Attribute.merge
      fun a e => { e with attributes := e.attributes ++ [a] }]

def merge : Wire.Merge StringEvent :=
  Wire.merge "StringEvent" slots

end StringEvent

/-- The log of one message of a transaction. -/
structure MessageLog where
  msgIndex : UInt32 := 0
  log : String := ""
  events : List StringEvent := []
  deriving DecidableEq, Repr, Inhabited

namespace MessageLog

def bytes (l : MessageLog) : Bytes :=
  Wire.encode (Wire.number 1 l.msgIndex.toUInt64 ++ Wire.text 2 l.log ++
    Wire.items 3 (l.events.map StringEvent.bytes))

def slots : List (Wire.Slot MessageLog) :=
  [Wire.numberSlot 1 "msg_index" fun n l => { l with msgIndex := n.toUInt32 },
    Wire.textSlot 2 "log" fun x l => { l with log := x },
    Wire.listSlot 3 "events" {} StringEvent.merge fun e l => { l with events := l.events ++ [e] }]

def merge : Wire.Merge MessageLog :=
  Wire.merge "AbciMessageLog" slots

end MessageLog

/-- A key and a value, both bytes, and whether they are indexed. -/
structure EventAttribute where
  key : Bytes := []
  value : Bytes := []
  index : Bool := false
  deriving DecidableEq, Repr, Inhabited

namespace EventAttribute

def bytes (a : EventAttribute) : Bytes :=
  Wire.encode (Wire.bytes 1 a.key ++ Wire.bytes 2 a.value ++
    Wire.number 3 (if a.index then 1 else 0))

def slots : List (Wire.Slot EventAttribute) :=
  [Wire.bytesSlot 1 "key" fun x a => { a with key := x },
    Wire.bytesSlot 2 "value" fun x a => { a with value := x },
    Wire.numberSlot 3 "index" fun n a => { a with index := n != 0 }]

def merge : Wire.Merge EventAttribute :=
  Wire.merge "EventAttribute" slots

end EventAttribute

/-- An event whose attributes are bytes. -/
structure Event where
  kind : String := ""
  attributes : List EventAttribute := []
  deriving DecidableEq, Repr, Inhabited

namespace Event

def bytes (e : Event) : Bytes :=
  Wire.encode (Wire.text 1 e.kind ++ Wire.items 2 (e.attributes.map EventAttribute.bytes))

def slots : List (Wire.Slot Event) :=
  [Wire.textSlot 1 "r#type" fun x e => { e with kind := x },
    Wire.listSlot 2 "attributes" {} EventAttribute.merge
      fun a e => { e with attributes := e.attributes ++ [a] }]

def merge : Wire.Merge Event := Wire.merge "Event" slots

end Event

/-- The key and the value of an attribute as they stand on the wire, whether a node has them as bytes
or as text. -/
structure AbciAttribute where
  key : Bytes := []
  value : Bytes := []
  deriving DecidableEq, Repr, Inhabited

namespace AbciAttribute

def bytes (a : AbciAttribute) : Bytes := Wire.encode (Wire.bytes 1 a.key ++ Wire.bytes 2 a.value)

def slots : List (Wire.Slot AbciAttribute) :=
  [Wire.bytesSlot 1 "key" fun x a => { a with key := x },
    Wire.bytesSlot 2 "value" fun x a => { a with value := x }]

def merge : Wire.Merge AbciAttribute := Wire.merge "AbciEventAttribute" slots

end AbciAttribute

/-- An event as it stands on the wire, of any version of a node. -/
structure AbciEvent where
  kind : String := ""
  attributes : List AbciAttribute := []
  deriving DecidableEq, Repr, Inhabited

namespace AbciEvent

def bytes (e : AbciEvent) : Bytes :=
  Wire.encode (Wire.text 1 e.kind ++ Wire.items 2 (e.attributes.map AbciAttribute.bytes))

def slots : List (Wire.Slot AbciEvent) :=
  [Wire.textSlot 1 "r#type" fun x e => { e with kind := x },
    Wire.listSlot 2 "attributes" {} AbciAttribute.merge
      fun a e => { e with attributes := e.attributes ++ [a] }]

def merge : Wire.Merge AbciEvent := Wire.merge "AbciEvent" slots

end AbciEvent

/-- The report on a transaction. -/
structure TxResponse where
  height : Int64 := 0
  txhash : String := ""
  codespace : String := ""
  code : UInt32 := 0
  data : String := ""
  rawLog : String := ""
  logs : List MessageLog := []
  info : String := ""
  gasWanted : Int64 := 0
  gasUsed : Int64 := 0
  tx : Option Any := none
  timestamp : String := ""
  events : List Event := []
  deriving DecidableEq, Repr, Inhabited

namespace TxResponse

def bytes (r : TxResponse) : Bytes :=
  Wire.encode (Wire.number 1 r.height.toUInt64 ++ Wire.text 2 r.txhash ++
    Wire.text 3 r.codespace ++ Wire.number 4 r.code.toUInt64 ++ Wire.text 5 r.data ++
    Wire.text 6 r.rawLog ++ Wire.items 7 (r.logs.map MessageLog.bytes) ++ Wire.text 8 r.info ++
    Wire.number 9 r.gasWanted.toUInt64 ++ Wire.number 10 r.gasUsed.toUInt64 ++
    Wire.items 11 (r.tx.toList.map Any.bytes) ++ Wire.text 12 r.timestamp ++
    Wire.items 13 (r.events.map Event.bytes))

def slots : List (Wire.Slot TxResponse) :=
  [Wire.numberSlot 1 "height" fun n r => { r with height := n.toInt64 },
    Wire.textSlot 2 "txhash" fun x r => { r with txhash := x },
    Wire.textSlot 3 "codespace" fun x r => { r with codespace := x },
    Wire.numberSlot 4 "code" fun n r => { r with code := n.toUInt32 },
    Wire.textSlot 5 "data" fun x r => { r with data := x },
    Wire.textSlot 6 "raw_log" fun x r => { r with rawLog := x },
    Wire.listSlot 7 "logs" {} MessageLog.merge fun l r => { r with logs := r.logs ++ [l] },
    Wire.textSlot 8 "info" fun x r => { r with info := x },
    Wire.numberSlot 9 "gas_wanted" fun n r => { r with gasWanted := n.toInt64 },
    Wire.numberSlot 10 "gas_used" fun n r => { r with gasUsed := n.toInt64 },
    Wire.optionSlot 11 "tx" {} Any.merge (·.tx) fun a r => { r with tx := some a },
    Wire.textSlot 12 "timestamp" fun x r => { r with timestamp := x },
    Wire.listSlot 13 "events" {} Event.merge fun e r => { r with events := r.events ++ [e] }]

def merge : Wire.Merge TxResponse :=
  Wire.merge "TxResponse" slots

end TxResponse
end CosmosClient.Proto
