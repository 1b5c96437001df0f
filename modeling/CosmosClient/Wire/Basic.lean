import CosmosClient.Text.Utf8

/-!
# Protocol buffer fields

A message is a sequence of numbered fields, which `Wire.encode` writes. The readers of keys, numbers
and byte strings return what they read with the bytes behind it.
-/

namespace CosmosClient.Wire

/-- The kinds of field by their three-bit code. -/
inductive Kind where
  | varint
  | fixed64
  | delimited
  | groupStart
  | groupEnd
  | fixed32
  deriving DecidableEq, Repr

def Kind.name : Kind → String
  | .varint => "Varint"
  | .fixed64 => "SixtyFourBit"
  | .delimited => "LengthDelimited"
  | .groupStart => "StartGroup"
  | .groupEnd => "EndGroup"
  | .fixed32 => "ThirtyTwoBit"

/-- The kind of a code. -/
def Kind.ofNat? : Nat → Option Kind
  | 0 => some .varint
  | 1 => some .fixed64
  | 2 => some .delimited
  | 3 => some .groupStart
  | 4 => some .groupEnd
  | 5 => some .fixed32
  | _ => none

/-- Why bytes are not a message. -/
inductive Fault where
  | varint
  | key (n : Nat)
  | kind (code : Nat)
  | zeroNumber
  | underflow
  /-- The fields of a message go on behind its end. -/
  | overrun
  | mismatch (found expected : Kind)
  | groupEnd
  | nesting
  | notUtf8
  deriving DecidableEq, Repr

def Fault.message : Fault → String
  | .varint => "invalid varint"
  | .key n => s!"invalid key value: {n}"
  | .kind code => s!"invalid wire type value: {code}"
  | .zeroNumber => "invalid tag value: 0"
  | .underflow => "buffer underflow"
  | .overrun => "delimited length exceeded"
  | .mismatch found expected => s!"invalid wire type: {found.name} (expected {expected.name})"
  | .groupEnd => "unexpected end group tag"
  | .nesting => "recursion limit reached"
  | .notUtf8 => "invalid string value: data is not UTF-8 encoded"

/-- The content of a field as it is written. -/
inductive Payload where
  | varint (n : UInt64)
  | delimited (bytes : Bytes)
  deriving DecidableEq, Repr

/-- The kind of a content. -/
def Payload.kind : Payload → Kind
  | .varint _ => .varint
  | .delimited _ => .delimited

/-- A numbered field. -/
structure Field where
  number : Nat
  payload : Payload
  deriving DecidableEq, Repr

/-- A number in groups of seven bits, the lowest first. -/
def varintBytes (n : Nat) : Bytes :=
  if n < 128 then [UInt8.ofNat n] else UInt8.ofNat (n % 128 + 128) :: varintBytes (n / 128)
termination_by n
decreasing_by omega

/-- Reads a number of at most ten bytes that fits 64 bits. -/
def readVarint : Nat → Bytes → Except Fault (Nat × Bytes)
  | 0, _ => .error .varint
  | _, [] => .error .varint
  | n + 1, b :: bs =>
    if b.toNat < 128 then
      if n = 0 ∧ 2 ≤ b.toNat then .error .varint else .ok (b.toNat, bs)
    else
      match readVarint n bs with
      | .ok (high, rest) => .ok (b.toNat - 128 + 128 * high, rest)
      | .error e => .error e

/-- Reads a number. -/
def varint (bs : Bytes) : Except Fault (Nat × Bytes) :=
  readVarint 10 bs

/-- Reads the number and the kind of a field. -/
def key (bs : Bytes) : Except Fault (Nat × Kind × Bytes) := do
  let (n, rest) ← varint bs
  if n < UInt32.size then
    match Kind.ofNat? (n % 8) with
    | none => .error (.kind (n % 8))
    | some kind => if n / 8 = 0 then .error .zeroNumber else .ok (n / 8, kind, rest)
  else .error (.key n)

/-- Takes a number of bytes. -/
def take (n : Nat) (bs : Bytes) : Except Fault (Bytes × Bytes) :=
  if n ≤ bs.length then .ok (bs.take n, bs.drop n) else .error .underflow

/-- Reads a length and as many bytes. -/
def delimited (bs : Bytes) : Except Fault (Bytes × Bytes) := do
  let (n, rest) ← varint bs
  take n rest

def Kind.code : Kind → Nat
  | .varint => 0
  | .fixed64 => 1
  | .delimited => 2
  | .groupStart => 3
  | .groupEnd => 4
  | .fixed32 => 5

def Payload.bytes : Payload → Bytes
  | .varint n => varintBytes n.toNat
  | .delimited b => varintBytes b.length ++ b

def Field.bytes (f : Field) : Bytes :=
  varintBytes (8 * f.number + f.payload.kind.code) ++ f.payload.bytes

/-- The bytes of fields in order. -/
def encode (fs : List Field) : Bytes :=
  fs.flatMap Field.bytes

/-- A number field; zero is left out. -/
def number (k : Nat) (n : UInt64) : List Field :=
  if n = 0 then [] else [⟨k, .varint n⟩]

/-- A bytes field that is always written. -/
def item (k : Nat) (b : Bytes) : Field :=
  ⟨k, .delimited b⟩

/-- A bytes field; no bytes are left out. -/
def bytes (k : Nat) (b : Bytes) : List Field :=
  if b = [] then [] else [item k b]

/-- A text field; an empty text is left out. -/
def text (k : Nat) (s : String) : List Field :=
  bytes k (Utf8.encode s)

/-- A field for each of several contents. -/
def items (k : Nat) (bs : List Bytes) : List Field :=
  bs.map (item k)

end CosmosClient.Wire
