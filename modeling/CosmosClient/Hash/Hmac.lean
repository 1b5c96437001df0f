import CosmosClient.Hash.Sha256
import CosmosClient.Hash.Sha512

/-!
# Keyed hashes and keys from passwords

HMAC over SHA-256 and SHA-512, and PBKDF2 over the latter for a key of one block.
-/

namespace CosmosClient

/-- A key filled up to a block, with every byte mixed with a constant. -/
def padKey (block : Nat) (mask : UInt8) (key : Bytes) : Bytes :=
  (key ++ List.replicate (block - key.length) 0).map (· ^^^ mask)

def hmacSha256 (key message : Bytes) : Bytes :=
  let key := if 64 < key.length then Sha256.hash key else key
  Sha256.hash (padKey 64 0x5c key ++ Sha256.hash (padKey 64 0x36 key ++ message))

namespace HmacSha512

/-- The states of the inner and the outer hash after the key. -/
structure Key where
  inner : Sha512.State
  outer : Sha512.State

/-- Prepares a key. -/
def Key.ofBytes (key : Bytes) : Key :=
  let key := if 128 < key.length then Sha512.hash key else key
  let state (mask : UInt8) : Sha512.State :=
    Sha512.compress Sha512.start (Sha512.words 16 (padKey 128 mask key)).toArray
  ⟨state 0x36, state 0x5c⟩

/-- The last block of a message of one state, behind the block of the key. -/
def lastBlock (s : Sha512.State) : Array UInt64 :=
  #[s.a, s.b, s.c, s.d, s.e, s.f, s.g, s.h, 0x8000000000000000, 0, 0, 0, 0, 0, 0, 1536]

/-- The keyed hash of a state. -/
def Key.again (k : Key) (s : Sha512.State) : Sha512.State :=
  Sha512.compress k.outer (lastBlock (Sha512.compress k.inner (lastBlock s)))

/-- The keyed hash of a message. -/
def Key.hash (k : Key) (message : Bytes) : Sha512.State :=
  Sha512.compress k.outer (lastBlock (Sha512.finish k.inner 128 message))

end HmacSha512

def hmacSha512 (key message : Bytes) : Bytes :=
  ((HmacSha512.Key.ofBytes key).hash message).bytes

namespace Pbkdf2

/-- The words of two states mixed. -/
def mix (s t : Sha512.State) : Sha512.State :=
  ⟨s.a ^^^ t.a, s.b ^^^ t.b, s.c ^^^ t.c, s.d ^^^ t.d,
    s.e ^^^ t.e, s.f ^^^ t.f, s.g ^^^ t.g, s.h ^^^ t.h⟩

/-- Mixes in further keyed hashes, each of the one before. -/
def iterate (k : HmacSha512.Key) : Nat → Sha512.State → Sha512.State → Sha512.State
  | 0, _, sum => sum
  | n + 1, u, sum =>
    let next := k.again u
    iterate k n next (mix sum next)

/-- The 64 bytes drawn from a password and a salt. -/
def derive (password salt : Bytes) (count : Nat) : Bytes :=
  let k := HmacSha512.Key.ofBytes password
  let u := k.hash (salt ++ [0, 0, 0, 1])
  (iterate k (count - 1) u u).bytes

end Pbkdf2
end CosmosClient
