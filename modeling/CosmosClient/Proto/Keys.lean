import CosmosClient.Proto.Basic

/-!
# Messages for public keys
-/

namespace CosmosClient.Proto

/-- A single public key. -/
structure PubKey where
  key : Bytes := []
  deriving DecidableEq, Repr, Inhabited

namespace PubKey

def bytes (p : PubKey) : Bytes := Wire.encode (Wire.bytes 1 p.key)

def slots : List (Wire.Slot PubKey) :=
  [Wire.bytesSlot 1 "key" fun x _ => ⟨x⟩]

def merge : Wire.Merge PubKey := Wire.merge "PubKey" slots

end PubKey

/-- A key made of other keys, of which a number must sign. -/
structure LegacyAminoPubKey where
  threshold : UInt32 := 0
  publicKeys : List Any := []
  deriving DecidableEq, Repr, Inhabited

namespace LegacyAminoPubKey

def bytes (p : LegacyAminoPubKey) : Bytes :=
  Wire.encode (Wire.number 1 p.threshold.toUInt64 ++ Wire.items 2 (p.publicKeys.map Any.bytes))

def slots : List (Wire.Slot LegacyAminoPubKey) :=
  [Wire.numberSlot 1 "threshold" fun n p => { p with threshold := n.toUInt32 },
    Wire.listSlot 2 "public_keys" {} Any.merge
      fun a p => { p with publicKeys := p.publicKeys ++ [a] }]

def merge : Wire.Merge LegacyAminoPubKey :=
  Wire.merge "LegacyAminoPubKey" slots

end LegacyAminoPubKey

/-- The signatures of the members of a key made of other keys. -/
structure MultiSignature where
  signatures : List Bytes := []
  deriving DecidableEq, Repr, Inhabited

namespace MultiSignature

def bytes (m : MultiSignature) : Bytes := Wire.encode (Wire.items 1 m.signatures)

def slots : List (Wire.Slot MultiSignature) :=
  [Wire.bytesSlot 1 "signatures" fun b m => { m with signatures := m.signatures ++ [b] }]

def merge : Wire.Merge MultiSignature :=
  Wire.merge "MultiSignature" slots

end MultiSignature
end CosmosClient.Proto
