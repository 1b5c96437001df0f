import CosmosClient.Json.Decode
import CosmosClient.Proto.Tx

/-!
# Bit arrays

A row of bits in bytes, the highest bit of a byte first. It marks which members of a key made of
others have signed. A row may claim more bits than its bytes hold; it then has as many as they hold.
-/

namespace CosmosClient

/-- A row of bits. -/
structure BitArray where
  /-- How many bits of the last byte are used, 0 if all are. -/
  extra : UInt32
  elems : Bytes
  deriving DecidableEq, Repr

namespace BitArray

def empty : BitArray := ⟨0, []⟩

/-- A row of unset bits. -/
def ofSize (n : Nat) : BitArray :=
  ⟨UInt32.ofNat (n % 8), List.replicate ((n + 7) / 8) 0⟩

def size (b : BitArray) : Nat :=
  let capacity := b.elems.length * 8
  if b.extra = 0 then capacity
  else min ((b.elems.length - 1) * 8 + b.extra.toNat) capacity

/-- The byte in which only the bit at a place is set. -/
def mask (i : Nat) : UInt8 :=
  0x80 >>> UInt8.ofNat (i % 8)

/-- The bit at a place; beyond the end no bit is set. -/
def get (b : BitArray) (i : Nat) : Bool :=
  if i < b.size then b.elems.getD (i / 8) 0 &&& mask i != 0 else false

/-- Sets or clears the bit at a place; `none` beyond the end. -/
def set? (b : BitArray) (i : Nat) (value : Bool) : Option BitArray :=
  if i < b.size then
    let change (byte : UInt8) : UInt8 := if value then byte ||| mask i else byte &&& ~~~mask i
    some { b with elems := b.elems.modify (i / 8) change }
  else none

/-- The number of bits set in a byte. -/
def ones (byte : UInt8) : Nat :=
  ((List.range 8).filter fun i => byte &&& mask i != 0).length

/-- The number of bits set before a place. -/
def countBefore (b : BitArray) (i : Nat) : Nat :=
  let i := min i b.size
  let whole := (b.elems.take (i / 8)).foldl (fun n byte => n + ones byte) 0
  let part := if i % 8 = 0 then 0 else
    ones (b.elems.getD (i / 8) 0 &&& ~~~(0xFF >>> UInt8.ofNat (i % 8)))
  whole + part

def toProto (b : BitArray) : Proto.BitArray := ⟨b.extra, b.elems⟩

def ofProto (p : Proto.BitArray) : BitArray := ⟨p.extraBitsStored, p.elems⟩

def toJson (b : BitArray) : Json :=
  .obj [("extra_bits_stored", .int b.extra.toNat), ("elems", .str (Base64.write b.elems))]

def ofJson : Json.Decoder BitArray := fun j => do
  let (extra, elems) ← Json.record
    [Json.slot "extra_bits_stored" false Json.uint32 fun x s => (some x, s.2),
      Json.slot "elems" false Json.base64 fun x s => (s.1, some x)]
    ((none : Option UInt32), (none : Option Bytes)) j
  return ⟨← Json.require extra, ← Json.require elems⟩

end BitArray
end CosmosClient
