import CosmosClient.BitArray
import CosmosClient.Message
import CosmosClient.PublicKey

/-!
# Transactions

A transaction has a body, the signers with the fee, and a signature for each signer. It is written in
JSON and as a protocol buffer, whose hash identifies it on the chain.
-/

namespace CosmosClient

/-- How a signature is made. -/
inductive SignMode where
  | unspecified
  /-- The encoded transaction is signed. -/
  | direct
  | textual
  | directAux
  /-- A JSON document is signed. -/
  | legacyAminoJson
  deriving DecidableEq, Repr, Inhabited

namespace SignMode

def all : List SignMode := [.unspecified, .direct, .textual, .directAux, .legacyAminoJson]

def number : SignMode → Int32
  | .unspecified => 0
  | .direct => 1
  | .textual => 2
  | .directAux => 3
  | .legacyAminoJson => 127

def jsonName : SignMode → String
  | .unspecified => "SIGN_MODE_UNSPECIFIED"
  | .direct => "SIGN_MODE_DIRECT"
  | .textual => "SIGN_MODE_TEXTUAL"
  | .directAux => "SIGN_MODE_DIRECT_AUX"
  | .legacyAminoJson => "SIGN_MODE_LEGACY_AMINO_JSON"

/-- The name of a mode in messages. -/
def name : SignMode → String
  | .unspecified => "Unspecified"
  | .direct => "Direct"
  | .textual => "Textual"
  | .directAux => "DirectAux"
  | .legacyAminoJson => "LegacyAminoJson"

def ofNumber (n : Int32) : Except ParseError SignMode :=
  match all.find? fun mode => mode.number == n with
  | some mode => .ok mode
  | none => .error (.unknownSignMode n.toInt)

def ofJsonName? (s : String) : Option SignMode :=
  all.find? fun mode => mode.jsonName == s

def toJson (mode : SignMode) : Json := .str mode.jsonName

def ofJson : Json.Decoder SignMode :=
  Json.variant fun name => (ofJsonName? name).map fun mode => fun
    | none | some .null => .ok mode
    | some j => Json.mismatch j

end SignMode

/-- How a signature was made: by one key, or by members of a key made of others. -/
inductive ModeInfo where
  | single (mode : SignMode)
  | multi (signed : BitArray) (members : List ModeInfo)
  deriving BEq, Repr, Inhabited

namespace ModeInfo

mutual
def toProto : ModeInfo → Proto.ModeInfo
  | .single mode => .single mode.number
  | .multi signed members => .multi (some signed.toProto) (toProtos members)

def toProtos : List ModeInfo → List Proto.ModeInfo
  | [] => []
  | m :: ms => toProto m :: toProtos ms
end

mutual
def ofProto : Proto.ModeInfo → Except ParseError ModeInfo
  | .unset => .error (.missingField "sum" "ModeInfo")
  | .single mode => (SignMode.ofNumber mode).map .single
  | .multi signed members =>
    (ofProtos members).map fun members =>
      .multi ((signed.map BitArray.ofProto).getD BitArray.empty) members

def ofProtos : List Proto.ModeInfo → Except ParseError (List ModeInfo)
  | [] => .ok []
  | m :: ms =>
    match ofProto m with
    | .error e => .error e
    | .ok mode => (ofProtos ms).map (mode :: ·)
end

mutual
def toJson : ModeInfo → Json
  | .single mode => .obj [("single", .obj [("mode", mode.toJson)])]
  | .multi signed members =>
    .obj [("multi", .obj [("bitarray", signed.toJson), ("mode_infos", .arr (toJsons members))])]

def toJsons : List ModeInfo → List Json
  | [] => []
  | m :: ms => toJson m :: toJsons ms
end

/-- Reads the part for one key. -/
def singleOfJson : Json.Decoder SignMode := fun j => do
  let mode ← Json.record [Json.slot "mode" false SignMode.ofJson fun x _ => some x]
    (none : Option SignMode) j
  Json.require mode

/-- Reads the part for several keys with a reader for each. -/
def multiOfJson (member : Json.Decoder ModeInfo) : Json.Decoder ModeInfo := fun j => do
  let (signed, members) ← Json.record
    [Json.slot "bitarray" false BitArray.ofJson fun x s => (some x, s.2),
      Json.slot "mode_infos" false (Json.list member) fun x s => (s.1, some x)]
    ((none : Option BitArray), (none : Option (List ModeInfo))) j
  return .multi (← Json.require signed) (← Json.require members)

/-- Reads a mode whose members nest less deep than a bound. -/
def ofJsonWithin : Nat → Json.Decoder ModeInfo
  | 0 => fun _ => .error .data
  | bound + 1 => Json.variant fun name =>
    let content (decode : Json.Decoder ModeInfo) : Option Json → Except Json.Fault ModeInfo
      | none => .error .data
      | some j => decode j
    if name = "single" then some (content fun j => (singleOfJson j).map .single)
    else if name = "multi" then some (content (multiOfJson (ofJsonWithin bound)))
    else none

def ofJson : Json.Decoder ModeInfo := fun j =>
  ofJsonWithin (j.depth + 1) j

end ModeInfo

/-- The key, the mode and the sequence of one signer. -/
structure SignerInfo where
  publicKey : Option PublicKey
  mode : ModeInfo
  sequence : UInt64
  deriving BEq, Repr, Inhabited

namespace SignerInfo

def toProto (s : SignerInfo) : Proto.SignerInfo :=
  ⟨s.publicKey.map PublicKey.toAny, some s.mode.toProto, s.sequence⟩

def ofProto (p : Proto.SignerInfo) : Except ParseError SignerInfo := do
  let publicKey ← p.publicKey.mapM PublicKey.ofAny
  match p.modeInfo with
  | none => .error (.missingField "mode_info" "SignerInfo")
  | some mode => (ModeInfo.ofProto mode).map fun mode => ⟨publicKey, mode, p.sequence⟩

def toJson (s : SignerInfo) : Json :=
  .obj [("public_key", Json.ofOption PublicKey.toJson s.publicKey), ("mode_info", s.mode.toJson),
    ("sequence", .str (Number.write s.sequence.toNat))]

def ofJson : Json.Decoder SignerInfo := fun j => do
  let (publicKey, mode, sequence) ← Json.record
    [Json.slot "public_key" false (Json.optional PublicKey.ofJson) fun x s => (x, s.2),
      Json.slot "mode_info" false ModeInfo.ofJson fun x s => (s.1, some x, s.2.2),
      Json.slot "sequence" false Json.looseUInt64 fun x s => (s.1, s.2.1, some x)]
    ((none : Option PublicKey), (none : Option ModeInfo), (none : Option UInt64)) j
  return ⟨publicKey, ← Json.require mode, ← Json.require sequence⟩

end SignerInfo

/-- What is known of a signer before it signs. -/
structure SignerData where
  sequence : UInt64
  /-- The key, unless the account has never signed. -/
  publicKey : Option PublicKey
  deriving Repr

/-- The signers and the fee of a transaction. -/
structure AuthInfo where
  signers : List SignerInfo
  fee : Fee
  deriving BEq

namespace AuthInfo

def toProto (a : AuthInfo) : Proto.AuthInfo :=
  ⟨a.signers.map SignerInfo.toProto, some a.fee.toProto⟩

def ofProto (p : Proto.AuthInfo) : Except ParseError AuthInfo := do
  let signers ← p.signerInfos.mapM SignerInfo.ofProto
  match p.fee with
  | none => .error (.missingField "fee" "AuthInfo")
  | some fee => (Fee.ofProto fee).map fun fee => ⟨signers, fee⟩

def toJson (a : AuthInfo) : Json :=
  .obj [("signer_infos", .arr (a.signers.map SignerInfo.toJson)), ("fee", a.fee.toJson)]

def ofJson : Json.Decoder AuthInfo := fun j => do
  let (signers, fee) ← Json.record
    [Json.slot "signer_infos" false (Json.list SignerInfo.ofJson) fun x s => (some x, s.2),
      Json.slot "fee" false Fee.ofJson fun x s => (s.1, some x)]
    ((none : Option (List SignerInfo)), (none : Option Fee)) j
  return ⟨← Json.require signers, ← Json.require fee⟩

end AuthInfo

/-- What a transaction does. -/
structure TxBody where
  messages : List Message
  memo : String
  /-- The last block that may hold the transaction, or 0 for any. -/
  timeoutHeight : UInt64
  deriving BEq

namespace TxBody

/-- A body of messages alone. -/
def ofMessages (messages : List Message) : TxBody := ⟨messages, "", 0⟩

def toProto (b : TxBody) : Except ParseError Proto.TxBody :=
  (b.messages.mapM Message.toAny).map fun messages => ⟨messages, b.memo, b.timeoutHeight⟩

def ofProto (p : Proto.TxBody) : Except ParseError TxBody :=
  (p.messages.mapM Message.ofAny).map fun messages => ⟨messages, p.memo, p.timeoutHeight⟩

def toJson (b : TxBody) : Except ParseError Json :=
  (b.messages.mapM Message.toJson).map fun messages =>
    .obj [("messages", .arr messages), ("memo", .str b.memo),
      ("timeout_height", .str (Number.write b.timeoutHeight.toNat))]

def ofJson : Json.Decoder TxBody := fun j => do
  let (messages, memo, timeoutHeight) ← Json.record
    [Json.slot "messages" false (Json.list Message.decode) fun x s => (some x, s.2),
      Json.slot "memo" true Json.text fun x s => (s.1, x, s.2.2),
      Json.slot "timeout_height" true Json.looseUInt64 fun x s => (s.1, s.2.1, x)]
    ((none : Option (List Message)), "", (0 : UInt64)) j
  return ⟨← Json.require messages, memo, timeoutHeight⟩

end TxBody

/-- A transaction; the signatures belong to the signers in order. -/
structure Tx where
  body : TxBody
  authInfo : AuthInfo
  signatures : List Bytes
  deriving BEq

namespace Tx

def typeUrl : String := "/cosmos.tx.v1beta1.Tx"

/-- A transaction without signers. -/
def unsigned (body : TxBody) (fee : Fee) : Tx := ⟨body, ⟨[], fee⟩, []⟩

/-- The signer that stands in for one that has not signed. -/
def emptySigner (s : SignerData) : SignerInfo :=
  match s.publicKey with
  | some (.multisig threshold keys) =>
    ⟨some (.multisig threshold keys), .multi (BitArray.ofSize keys.length) [], s.sequence⟩
  | some key => ⟨some key, .single .direct, s.sequence⟩
  | none => ⟨some PublicKey.placeholder, .single .direct, s.sequence⟩

/-- Adds signers, each with an empty signature. -/
def appendEmptySignatures (t : Tx) (signers : List SignerData) : Tx :=
  { t with
    authInfo := { t.authInfo with signers := t.authInfo.signers ++ signers.map emptySigner }
    signatures := t.signatures ++ signers.map fun _ => [] }

def toProto (t : Tx) : Except ParseError Proto.Tx :=
  t.body.toProto.map fun body => ⟨some body, some t.authInfo.toProto, t.signatures⟩

def ofProto (p : Proto.Tx) : Except ParseError Tx :=
  match p.body with
  | none => .error (.missingField "body" "Tx")
  | some body => do
    let body ← TxBody.ofProto body
    match p.authInfo with
    | none => .error (.missingField "auth_info" "Tx")
    | some authInfo =>
      (AuthInfo.ofProto authInfo).map fun authInfo => ⟨body, authInfo, p.signatures⟩

/-- The bytes that go to the chain. -/
def toBytes (t : Tx) : Except ParseError Bytes :=
  t.toProto.map Proto.Tx.bytes

/-- A transaction from the bytes that go to the chain. -/
def ofBytes (b : Bytes) : Except ParseError Tx := do
  let p ← (Proto.decode Proto.Tx.merge {} b).mapError fun e => .decode typeUrl e
  ofProto p

/-- The bytes in Base64. -/
def toBase64 (t : Tx) : Except ParseError String :=
  t.toBytes.map Base64.write

/-- A transaction from its bytes in Base64, with or without blanks around them. -/
def ofBase64 (s : String) : Except Failure Tx := do
  let b ← (Base64.readCanonical (String.ofList (Text.trim s.toList))).mapError
    fun fault => ⟨[], .base64 fault⟩
  (ofBytes b).mapError ParseError.toFailure

/-- The name of bytes on the chain. -/
def hashBytes (b : Bytes) : String :=
  Hex.writeUpper (Sha256.hash b)

/-- The name of the transaction on the chain. -/
def hash (t : Tx) : Except ParseError String :=
  t.toBytes.map hashBytes

def toJson (t : Tx) : Except ParseError Json :=
  t.body.toJson.map fun body =>
    .obj [("body", body), ("auth_info", t.authInfo.toJson),
      ("signatures", .arr (t.signatures.map fun b => .str (Base64.write b)))]

def ofJson : Json.Decoder Tx := fun j => do
  let (body, authInfo, signatures) ← Json.record
    [Json.slot "body" false TxBody.ofJson fun x s => (some x, s.2),
      Json.slot "auth_info" false AuthInfo.ofJson fun x s => (s.1, some x, s.2.2),
      Json.slot "signatures" false (Json.list Json.base64) fun x s => (s.1, s.2.1, some x)]
    ((none : Option TxBody), (none : Option AuthInfo), (none : Option (List Bytes))) j
  return ⟨← Json.require body, ← Json.require authInfo, ← Json.require signatures⟩

end Tx
end CosmosClient
