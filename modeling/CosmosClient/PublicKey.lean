import CosmosClient.Address
import CosmosClient.Hash.Ripemd160
import CosmosClient.Hash.Sha256
import CosmosClient.Json.Decode
import CosmosClient.Proto.Keys

/-!
# Public keys

A key is a single key of one of two curves or is made of other keys, of which a number must sign.
The single key without bytes stands for a key that is not known yet.
-/

namespace CosmosClient

/-- A public key known to a chain. -/
inductive PublicKey where
  | secp256k1 (key : Bytes)
  | ed25519 (key : Bytes)
  | multisig (threshold : UInt32) (keys : List PublicKey)
  deriving Repr, Inhabited

namespace PublicKey

mutual
def decEq : (a b : PublicKey) → Decidable (a = b)
  | .secp256k1 a, .secp256k1 b =>
    if h : a = b then .isTrue (by rw [h]) else .isFalse (by simpa using h)
  | .ed25519 a, .ed25519 b =>
    if h : a = b then .isTrue (by rw [h]) else .isFalse (by simpa using h)
  | .multisig s as, .multisig t bs =>
    match decEqList as bs with
    | .isTrue h =>
      if hs : s = t then .isTrue (by rw [h, hs]) else .isFalse (by simp [hs])
    | .isFalse h => .isFalse (by simp [h])
  | .secp256k1 _, .ed25519 _ => .isFalse (by simp)
  | .secp256k1 _, .multisig _ _ => .isFalse (by simp)
  | .ed25519 _, .secp256k1 _ => .isFalse (by simp)
  | .ed25519 _, .multisig _ _ => .isFalse (by simp)
  | .multisig _ _, .secp256k1 _ => .isFalse (by simp)
  | .multisig _ _, .ed25519 _ => .isFalse (by simp)

def decEqList : (as bs : List PublicKey) → Decidable (as = bs)
  | [], [] => .isTrue rfl
  | [], _ :: _ => .isFalse (by simp)
  | _ :: _, [] => .isFalse (by simp)
  | a :: as, b :: bs =>
    match decEq a b, decEqList as bs with
    | .isTrue h, .isTrue hs => .isTrue (by rw [h, hs])
    | .isFalse h, _ => .isFalse (by simp [h])
    | _, .isFalse hs => .isFalse (by simp [hs])
end

instance : DecidableEq PublicKey := decEq

def secp256k1Url : String := "/cosmos.crypto.secp256k1.PubKey"

def ed25519Url : String := "/cosmos.crypto.ed25519.PubKey"

def multisigUrl : String := "/cosmos.crypto.multisig.LegacyAminoPubKey"

def typeUrl : PublicKey → String
  | .secp256k1 _ => secp256k1Url
  | .ed25519 _ => ed25519Url
  | .multisig _ _ => multisigUrl

/-- Whether the key is made of others. -/
def isMultisig : PublicKey → Bool
  | .multisig _ _ => true
  | _ => false

/-- The key that stands for one not known yet. -/
def placeholder : PublicKey := .secp256k1 []

def isPlaceholder : PublicKey → Bool
  | .secp256k1 [] => true
  | _ => false

mutual
def toAny : PublicKey → Proto.Any
  | .secp256k1 key => ⟨secp256k1Url, (Proto.PubKey.mk key).bytes⟩
  | .ed25519 key => ⟨ed25519Url, (Proto.PubKey.mk key).bytes⟩
  | .multisig threshold keys => ⟨multisigUrl, (Proto.LegacyAminoPubKey.mk threshold (toAnys keys)).bytes⟩

def toAnys : List PublicKey → List Proto.Any
  | [] => []
  | k :: ks => toAny k :: toAnys ks
end

/-- Reads a key whose members nest less deep than a bound. -/
def ofAnyWithin : Nat → Proto.Any → Except ParseError PublicKey
  | 0, any => .error (.unsupportedPublicKey any.typeUrl)
  | bound + 1, any =>
    let decoded {α : Type} (r : Except Wire.Error α) : Except ParseError α :=
      r.mapError fun e => .decode any.typeUrl e
    if any.typeUrl = secp256k1Url then
      (decoded (Proto.decode Proto.PubKey.merge {} any.value)).map fun p => .secp256k1 p.key
    else if any.typeUrl = ed25519Url then
      (decoded (Proto.decode Proto.PubKey.merge {} any.value)).map fun p => .ed25519 p.key
    else if any.typeUrl = multisigUrl then do
      let p ← decoded (Proto.decode Proto.LegacyAminoPubKey.merge {} any.value)
      let keys ← p.publicKeys.mapM (ofAnyWithin bound)
      return .multisig p.threshold keys
    else .error (.unsupportedPublicKey any.typeUrl)

def ofAny (any : Proto.Any) : Except ParseError PublicKey :=
  ofAnyWithin (any.value.length + 1) any

/-- The bytes of the account of a single key: a hash of the key. -/
def rawAddress? : PublicKey → Option RawAddress
  | .secp256k1 key => if key.isEmpty then none else RawAddress.ofBytes? (Ripemd160.hash (Sha256.hash key))
  | .ed25519 key => if key.isEmpty then none else RawAddress.ofBytes? ((Sha256.hash key).take 20)
  | .multisig _ _ => none

/-- The account of a single key behind a prefix. -/
def address? (key : PublicKey) (hrp : Hrp) : Option Address :=
  key.rawAddress?.map fun raw => ⟨raw, hrp⟩

mutual
def toAminoJson : PublicKey → Json
  | .secp256k1 key =>
    .obj [("type", .str "tendermint/PubKeySecp256k1"), ("value", .str (Base64.write key))]
  | .ed25519 key =>
    .obj [("type", .str "tendermint/PubKeyEd25519"), ("value", .str (Base64.write key))]
  | .multisig threshold keys =>
    .obj [("type", .str "tendermint/PubKeyMultisigThreshold"),
      ("value", .obj [("pubkeys", .arr (toAminoJsons keys)),
        ("threshold", .str (Number.write threshold.toNat))])]

def toAminoJsons : List PublicKey → List Json
  | [] => []
  | k :: ks => toAminoJson k :: toAminoJsons ks
end

mutual
def toJson : PublicKey → Json
  | .secp256k1 key => .obj [("@type", .str secp256k1Url), ("key", .str (Base64.write key))]
  | .ed25519 key => .obj [("@type", .str ed25519Url), ("key", .str (Base64.write key))]
  | .multisig threshold keys =>
    .obj [("@type", .str multisigUrl), ("threshold", .int threshold.toNat),
      ("public_keys", .arr (toJsons keys))]

def toJsons : List PublicKey → List Json
  | [] => []
  | k :: ks => toJson k :: toJsons ks
end

/-- The kinds of key. -/
inductive Kind where
  | secp256k1
  | ed25519
  | multisig
  deriving DecidableEq, Repr

/-- Reads a kind of key: its type, or within another key also its number. -/
def kindOfJson (nested : Bool) : Json.Decoder Kind
  | .str s =>
    if s = secp256k1Url then .ok .secp256k1
    else if s = ed25519Url then .ok .ed25519
    else if s = multisigUrl then .ok .multisig
    else .error .data
  | .int n =>
    match nested, n with
    | true, 0 => .ok .secp256k1
    | true, 1 => .ok .ed25519
    | true, 2 => .ok .multisig
    | _, _ => .error .data
  | j => Json.mismatch j

/-- Splits the kind from the other fields of an object, all of which are read. -/
def splitKind (nested : Bool) :
    Option Kind → List (String × Json) → Except Json.Fault (Option Kind × List (String × Json))
  | kind, [] => .ok (kind, [])
  | kind, (key, j) :: rest =>
    if key = "@type" then
      if kind.isSome then .error .data
      else do
        let found ← kindOfJson nested j
        splitKind nested (some found) rest
    else
      match Json.firstFlaw j with
      | some fault => .error fault
      | none => (splitKind nested kind rest).map fun (kind, fields) => (kind, (key, j) :: fields)

/-- Reads the key of a single key. -/
def keyOfJson : Json.Decoder Bytes := fun j => do
  let key ← Json.record [Json.slot "key" false Json.base64 fun x _ => some x]
    (none : Option Bytes) j
  Json.require key

/-- Reads a key whose members nest less deep than a bound. -/
def ofJsonWithin (nested : Bool) : Nat → Json.Decoder PublicKey
  | 0, _ => .error .data
  | bound + 1, j => do
    let (kind, content) ←
      match j with
      | .obj fields => do
        let (kind, fields) ← splitKind nested none fields
        .ok (← Json.require kind, Json.obj fields)
      | .arr (tag :: items) => do
        let kind ← kindOfJson nested tag
        match Json.firstFlawItems items with
        | some fault => .error fault
        | none => .ok (kind, Json.arr items)
      | j => Json.mismatch j
    Json.settle .data <|
      match kind with
      | .secp256k1 => (keyOfJson content).map .secp256k1
      | .ed25519 => (keyOfJson content).map .ed25519
      | .multisig => do
        let (threshold, keys) ← Json.record
          [Json.slot "threshold" false Json.uint32 fun x s => (some x, s.2),
            Json.slot "public_keys" false (Json.list (ofJsonWithin true bound))
              fun x s => (s.1, some x)]
          ((none : Option UInt32), (none : Option (List PublicKey))) content
        return .multisig (← Json.require threshold) (← Json.require keys)

def ofJson : Json.Decoder PublicKey := fun j =>
  ofJsonWithin false (j.depth + 1) j

end PublicKey
end CosmosClient
