import CosmosClient.Error
import CosmosClient.Json.Decode
import CosmosClient.Proto.Result

/-!
# Events and logs

An event has a kind and attributes. The index of events holds, for each kind and key, the values of
the attributes in order.
-/

namespace CosmosClient

/-- A key and a value. -/
structure Attribute where
  key : String
  value : String
  deriving DecidableEq, Repr

/-- An event of a transaction. -/
structure Event where
  kind : String
  attributes : List Attribute
  deriving DecidableEq, Repr

/-- Values per kind of event and key, both in order. -/
structure EventIndex where
  toList : List (String × List (String × List String))
  deriving DecidableEq, Repr

namespace EventIndex

/-- Changes the value of a key in a list sorted by key. -/
def update {β : Type} (key : String) (start : β) (change : β → β) :
    List (String × β) → List (String × β)
  | [] => [(key, change start)]
  | (k, v) :: rest =>
    if key < k then (key, change start) :: (k, v) :: rest
    else if key = k then (k, change v) :: rest
    else (k, v) :: update key start change rest

/-- The value of a key. -/
def lookup? {β : Type} (key : String) (entries : List (String × β)) : Option β :=
  (entries.find? fun (k, _) => k == key).map (·.2)

def empty : EventIndex := ⟨[]⟩

/-- Adds a value at the end of the others of its kind and key. -/
def add (index : EventIndex) (kind : String) (a : Attribute) : EventIndex :=
  ⟨update kind [] (update a.key [] (· ++ [a.value])) index.toList⟩

/-- The index of events. -/
def ofEvents (events : List Event) : EventIndex :=
  events.foldl (fun index e => e.attributes.foldl (fun index a => index.add e.kind a) index) empty

/-- The values of a kind and key, if there are any. -/
def get? (index : EventIndex) (kind key : String) : Option (List String) :=
  (lookup? kind index.toList).bind (lookup? key)

def toJson (index : EventIndex) : Json :=
  .obj (index.toList.map fun (kind, keys) =>
    (kind, .obj (keys.map fun (key, values) => (key, .arr (values.map .str)))))

end EventIndex

namespace Event

/-- The values of a key. -/
def values (e : Event) (key : String) : List String :=
  (e.attributes.filter fun a => a.key == key).map (·.value)

def toProto (e : Event) : Proto.StringEvent :=
  ⟨e.kind, e.attributes.map fun a => ⟨a.key, a.value⟩⟩

def ofProto (p : Proto.StringEvent) : Event :=
  ⟨p.kind, p.attributes.map fun a => ⟨a.key, a.value⟩⟩

def typeUrl : String := "/tendermint.abci.Event"

/-- The event as it stands on the wire. -/
def toAbci (e : Event) : Proto.AbciEvent :=
  ⟨e.kind, e.attributes.map fun a => ⟨Utf8.encode a.key, Utf8.encode a.value⟩⟩

/-- An event as it stood on the wire; bytes that are no text are replaced. -/
def ofAbci (p : Proto.AbciEvent) : Event :=
  ⟨p.kind, p.attributes.map fun a => ⟨Utf8.decodeLossy a.key, Utf8.decodeLossy a.value⟩⟩

/-- An event in an encoding that another message has. -/
def reencode {σ : Type} (merge : Wire.Merge σ) (start : σ) (b : Bytes) : Except ParseError σ :=
  (Proto.decode merge start b).mapError fun e => .decode typeUrl e

/-- The event as a message with byte attributes. -/
def toProtoBytes (e : Event) : Except ParseError Proto.Event :=
  reencode Proto.Event.merge {} e.toAbci.bytes

/-- An event from a message with byte attributes. -/
def ofProtoBytes (p : Proto.Event) : Except ParseError Event :=
  (reencode Proto.AbciEvent.merge {} p.bytes).map ofAbci

def toJson (e : Event) : Json :=
  .obj [("type", .str e.kind),
    ("attributes",
      .arr (e.attributes.map fun a => .obj [("key", .str a.key), ("value", .str a.value)]))]

/-- Reads an attribute from a JSON document. -/
def attributeOfJson : Json.Decoder Attribute := fun j => do
  let (key, value) ← Json.record
    [Json.slot "key" false Json.text fun x s => (some x, s.2),
      Json.slot "value" true (Json.nullable "" Json.text) fun x s => (s.1, x)]
    ((none : Option String), "") j
  return ⟨← Json.require key, value⟩

def ofJson : Json.Decoder Event := fun j => do
  let (kind, attributes) ← Json.record
    [Json.slot "type" false Json.text fun x s => (some x, s.2),
      Json.slot "attributes" true (Json.list attributeOfJson) fun x s => (s.1, x)]
    ((none : Option String), ([] : List Attribute)) j
  return ⟨← Json.require kind, attributes⟩

end Event

/-- The events of one message of a transaction. -/
structure MessageLog where
  /-- The place of the message in its transaction. -/
  index : UInt32
  /-- What went wrong, if anything. -/
  log : String
  events : List Event
  byKind : EventIndex
  deriving DecidableEq, Repr

namespace MessageLog

def typeUrl : String := "/cosmos.base.abci.v1beta1.ABCIMessageLog"

/-- A log with the index of its events. -/
def ofEvents (index : UInt32) (log : String) (events : List Event) : MessageLog :=
  ⟨index, log, events, EventIndex.ofEvents events⟩

/-- The values of a kind of event and key. -/
def values (l : MessageLog) (kind key : String) : List String :=
  (l.byKind.get? kind key).getD []

def toProto (l : MessageLog) : Proto.MessageLog :=
  ⟨l.index, l.log, l.events.map Event.toProto⟩

def ofProto (p : Proto.MessageLog) : MessageLog :=
  ofEvents p.msgIndex p.log (p.events.map Event.ofProto)

def toJson (l : MessageLog) : Json :=
  .obj [("msg_index", .int l.index.toNat), ("log", .str l.log),
    ("events", .arr (l.events.map Event.toJson))]

def ofJson : Json.Decoder MessageLog := fun j => do
  let (index, log, events) ← Json.record
    [Json.slot "msg_index" true
        (Json.looseInteger Json.uint32? fun s => (Number.readUInt32 s.toList).toOption)
        fun x s => (x, s.2),
      Json.slot "log" true (Json.nullable "" Json.text) fun x s => (s.1, x, s.2.2),
      Json.slot "events" true (Json.list Event.ofJson) fun x s => (s.1, s.2.1, x)]
    ((0 : UInt32), "", ([] : List Event)) j
  return ofEvents index log events

/-- Reads the log at a place of a list; its own index does not count. -/
def ofJsonAt (place : Nat) (j : Json) : Except ParseError MessageLog :=
  match Json.decodeValue ofJson j with
  | .error fault => .error (.json typeUrl fault)
  | .ok l => .ok { l with index := UInt32.ofNat place }

/-- The logs of a transaction; an empty list means none. -/
def listOfJson (logs : List Json) : Except ParseError (Option (List MessageLog)) :=
  if logs.isEmpty then .ok none
  else (logs.zipIdx.mapM fun (j, place) => ofJsonAt place j).map some

/-- The logs of a transaction from messages; an empty list means none. -/
def listOfProto (logs : List Proto.MessageLog) : Option (List MessageLog) :=
  if logs.isEmpty then none else some (logs.map ofProto)

end MessageLog
end CosmosClient
