import CosmosClient.Secp256k1
import CosmosClient.Text.Utf8

/-!
# Keys derived from keys

A private key with a chain code has a further such key for every number of 32 bits. Numbers from
`2^31` on need the private key, smaller ones would do with the public key.
-/

namespace CosmosClient

/-- A private key with the code that its descendants depend on. -/
structure ExtendedKey where
  secret : Secp256k1.SecretKey
  chainCode : Bytes

namespace ExtendedKey

/-- A key from the halves of a keyed hash, the first shifted by a number. -/
def ofHash (shift : Nat) (h : Bytes) : Except Failure ExtendedKey :=
  let left := BigEndian.read (h.take 32)
  let scalar := (left + shift) % Secp256k1.order
  match if left < Secp256k1.order then Secp256k1.SecretKey.ofNat? scalar else none with
  | some secret => .ok ⟨secret, h.drop 32⟩
  | none => .error (Failure.text "malformed or out-of-range secret key")

/-- The key that a seed begins with. -/
def ofSeed (seed : Bytes) : Except Failure ExtendedKey :=
  ofHash 0 (hmacSha512 (Utf8.encode "Bitcoin seed") seed)

/-- The key of a number. -/
def child (k : ExtendedKey) (n : Nat) : Except Failure ExtendedKey :=
  let origin := if n < 0x80000000 then k.secret.publicBytes else 0 :: k.secret.bytes
  ofHash k.secret.scalar (hmacSha512 k.chainCode (origin ++ BigEndian.write 4 n))

/-- The key at the end of several steps. -/
def descend (k : ExtendedKey) (steps : List Nat) : Except Failure ExtendedKey :=
  steps.foldlM child k

end ExtendedKey
end CosmosClient
