import CosmosClient.Wire.Basic

/-!
# Decoding messages

A message is decoded field by field into a value that starts out with the defaults: the last number
or text wins, a repeated message goes on where its predecessor ended, and unknown fields are passed
over. Messages nest at most a hundred levels. The length of a message within another is compared with
its fields when these have been read, so that a fault in a field that is too long comes first.
-/

namespace CosmosClient.Wire

/-- A fault with the fields, innermost first, in which it was met. -/
structure Error where
  path : List (String × String)
  fault : Fault
  deriving DecidableEq, Repr

def Error.message (e : Error) : String :=
  let path := e.path.map fun (message, field) => s!"{message}.{field}: "
  "failed to decode Protobuf message: " ++ String.join path ++ e.fault.message

/-- An error met within a field. -/
def Error.within (message field : String) (e : Error) : Error :=
  { e with path := e.path ++ [(message, field)] }

/-- How many levels of messages may lie below a message. -/
def maxNesting : Nat := 100

/-- A fault met in the field itself. -/
def here {α : Type} (fault : Fault) : Except Error α :=
  .error ⟨[], fault⟩

/-- What is read from the field itself. -/
def own {α : Type} (r : Except Fault α) : Except Error α :=
  r.mapError fun fault => ⟨[], fault⟩

/-- A reader of a message: from how many levels may lie below it, how many bytes follow it, the bytes
ahead and a value, to the value with the fields of the message and the bytes left. -/
abbrev Merge (σ : Type) := Nat → Nat → Bytes → σ → Except Error (σ × Bytes)

/-- A known field of a message: how its content, with which the bytes ahead begin, goes into the
value, given its kind and how many levels may lie below the message. -/
structure Slot (σ : Type) where
  number : Nat
  name : String
  merge : Nat → Kind → Bytes → σ → Except Error (σ × Bytes)

/-- Demands the kind of a field. -/
def expect (found expected : Kind) : Except Error Unit :=
  if found = expected then .ok () else here (.mismatch found expected)

def numberSlot {σ : Type} (k : Nat) (name : String) (put : UInt64 → σ → σ) : Slot σ :=
  ⟨k, name, fun _ kind bs s => do
    expect kind .varint
    let (n, rest) ← own (varint bs)
    return (put (UInt64.ofNat n) s, rest)⟩

def bytesSlot {σ : Type} (k : Nat) (name : String) (put : Bytes → σ → σ) : Slot σ :=
  ⟨k, name, fun _ kind bs s => do
    expect kind .delimited
    let (b, rest) ← own (delimited bs)
    return (put b s, rest)⟩

def textSlot {σ : Type} (k : Nat) (name : String) (put : String → σ → σ) : Slot σ :=
  ⟨k, name, fun _ kind bs s => do
    expect kind .delimited
    let (b, rest) ← own (delimited bs)
    match Utf8.decode? b with
    | some text => return (put text s, rest)
    | none => here .notUtf8⟩

/-- A message behind its length. -/
def embedded {σ : Type} (merge : Merge σ) (depth : Nat) (bs : Bytes) (s : σ) :
    Except Error (σ × Bytes) := do
  let (n, bs) ← own (varint bs)
  if n ≤ bs.length then do
    let (s, rest) ← merge depth (bs.length - n) bs s
    if rest.length = bs.length - n then return (s, rest) else here .overrun
  else here .underflow

/-- A slot for messages, which `merge` reads into the value. -/
def messageSlot {σ : Type} (k : Nat) (name : String) (merge : Merge σ) : Slot σ :=
  ⟨k, name, fun depth kind bs s => do
    expect kind .delimited
    match depth with
    | 0 => here .nesting
    | depth + 1 => embedded merge depth bs s⟩

/-- A slot for a message that occurs at most once; repeated contents go on where the first ended. -/
def optionSlot {σ α : Type} (k : Nat) (name : String) (start : α) (merge : Merge α)
    (get : σ → Option α) (put : α → σ → σ) : Slot σ :=
  messageSlot k name fun depth behind bs s =>
    (merge depth behind bs ((get s).getD start)).map fun (a, rest) => (put a s, rest)

/-- A slot for a message that may occur any number of times. -/
def listSlot {σ α : Type} (k : Nat) (name : String) (start : α) (merge : Merge α)
    (push : α → σ → σ) : Slot σ :=
  messageSlot k name fun depth behind bs s =>
    (merge depth behind bs start).map fun (a, rest) => (push a s, rest)

/-- Passes over the fields of a group up to its end, each with `skip`. The fuel is the number of bytes
ahead. -/
def skipGroup (skip : Nat → Kind → Bytes → Except Error Bytes) (number : Nat) :
    Nat → Bytes → Except Error Bytes
  | 0, _ => here .varint
  | fuel + 1, bs => do
    let (inner, kind, rest) ← own (key bs)
    if kind = .groupEnd then
      if inner = number then return rest else here .groupEnd
    else do
      let rest ← skip inner kind rest
      skipGroup skip number fuel rest

/-- Passes over the content of an unknown field. -/
def skip : Nat → Nat → Kind → Bytes → Except Error Bytes
  | 0, _, _, _ => here .nesting
  | depth + 1, number, kind, bs =>
    match kind with
    | .varint => own ((varint bs).map (·.2))
    | .fixed32 => own ((take 4 bs).map (·.2))
    | .fixed64 => own ((take 8 bs).map (·.2))
    | .delimited => own ((delimited bs).map (·.2))
    | .groupStart => skipGroup (skip depth) number (bs.length + 1) bs
    | .groupEnd => here .groupEnd

/-- Puts one field, with which the bytes begin, into a value. -/
def mergeField {σ : Type} (message : String) (slots : List (Slot σ)) (depth : Nat) (bs : Bytes)
    (s : σ) : Except Error (σ × Bytes) := do
  let (number, kind, rest) ← own (key bs)
  match slots.find? fun slot => slot.number == number with
  | none => (skip depth number kind rest).map fun rest => (s, rest)
  | some slot => (slot.merge depth kind rest s).mapError (Error.within message slot.name)

/-- Puts fields into a value until no more bytes are left than follow the message. The fuel is the
number of bytes ahead. -/
def mergeFields {σ : Type} (message : String) (slots : List (Slot σ)) (depth behind : Nat) :
    Nat → Bytes → σ → Except Error (σ × Bytes)
  | 0, bs, s => .ok (s, bs)
  | fuel + 1, bs, s =>
    if bs.length ≤ behind then .ok (s, bs)
    else do
      let (s, rest) ← mergeField message slots depth bs s
      mergeFields message slots depth behind fuel rest s

/-- Reads a message with the given fields. -/
def merge {σ : Type} (message : String) (slots : List (Slot σ)) : Merge σ :=
  fun depth behind bs s => mergeFields message slots depth behind bs.length bs s

end CosmosClient.Wire
