import CosmosClient.Secp256k1
import CosmosClient.SignDoc

/-!
# Signing keys

A private key signs bytes, and transactions at the place that belongs to its public key.
-/

namespace CosmosClient

/-- Whether a signature of bytes in compact form is valid. -/
def verifySignature (publicKey message signature : Bytes) : Bool :=
  match Secp256k1.readPoint? publicKey, Secp256k1.Signature.ofBytes? signature with
  | some point, some sig => Secp256k1.verify point (Sha256.hash message) sig
  | _, _ => false

/-- A private key. -/
structure Key where
  secret : Secp256k1.SecretKey
  deriving DecidableEq

/-- How a transaction is to be signed. -/
structure SignOptions where
  chainId : String
  accountNumber : UInt64
  sequence : UInt64
  mode : SignMode
  deriving DecidableEq, Repr

namespace Key

def ofBytes (b : Bytes) : Except Failure Key :=
  match Secp256k1.SecretKey.ofBytes? b with
  | some secret => .ok ⟨secret⟩
  | none =>
    .error ⟨["Invalid secp256k1 private key"], .text "malformed or out-of-range secret key"⟩

def publicBytes (k : Key) : Bytes := k.secret.publicBytes

def publicKey (k : Key) : PublicKey := .secp256k1 k.publicBytes

def rawAddress (k : Key) : RawAddress :=
  ⟨Ripemd160.hash (Sha256.hash k.publicBytes), .inl (Ripemd160.length_hash _)⟩

def address (k : Key) (hrp : Hrp) : Address := ⟨k.rawAddress, hrp⟩

/-- The signature of bytes in compact form. -/
def signBytes (k : Key) (message : Bytes) : Bytes :=
  (Secp256k1.sign k.secret (Sha256.hash message)).bytes

/-- A description that does not give the private key away. -/
def dump (k : Key) : String :=
  s!"Key({Hex.write k.publicBytes})"

/-- Whether a mode can be signed in. -/
def supports : SignMode → Bool
  | .direct | .legacyAminoJson => true
  | _ => false

/-- Whether a signer is this key or may become it. -/
def mayTake (k : Key) (s : SignerInfo) : Bool :=
  match s.publicKey with
  | some key => key == k.publicKey || key.isPlaceholder
  | none => true

/-- The signer of this key. -/
def signer (k : Key) (options : SignOptions) : SignerInfo :=
  ⟨some k.publicKey, .single options.mode, options.sequence⟩

/-- Puts the signer of this key at the first place that it may take, else at the end, with an empty
signature for each signer that has none. -/
def enlist (k : Key) (t : Tx) (options : SignOptions) : Tx × Nat :=
  let old := t.authInfo.signers
  let place := (old.findIdx? k.mayTake).getD old.length
  let signers := if place < old.length then old.set place (k.signer options)
    else old ++ [k.signer options]
  let missing := signers.length - t.signatures.length
  ({ t with
      authInfo := { t.authInfo with signers }
      signatures := t.signatures ++ List.replicate missing [] }, place)

/-- The bytes of the legacy document of a transaction. -/
def legacyBytes (t : Tx) (options : SignOptions) : Except Failure Bytes :=
  inContext "Unable to build amino JSON sign document" <|
    (LegacySignDoc.ofTx t options.chainId options.accountNumber options.sequence).bytes.mapError
      ParseError.toFailure

/-- The bytes that are signed for a transaction. -/
def documentBytes (t : Tx) (options : SignOptions) : Except Failure Bytes :=
  match options.mode with
  | .direct =>
    ((SignDoc.ofTx t options.chainId options.accountNumber).map SignDoc.bytes).mapError
      ParseError.toFailure
  | .legacyAminoJson => legacyBytes t options
  | mode => .error (Failure.text s!"Unsupported sign mode for signing: {mode.name}")

/-- Signs a transaction. Without a document the signer is set all the same; a mode that cannot be
signed in changes nothing. -/
def signTx (k : Key) (t : Tx) (options : SignOptions) : Tx × Except Failure Unit :=
  if supports options.mode then
    let (enlisted, place) := k.enlist t options
    match documentBytes enlisted options with
    | .error e => (enlisted, .error e)
    | .ok document =>
      ({ enlisted with signatures := enlisted.signatures.set place (k.signBytes document) }, .ok ())
  else (t, .error (Failure.text s!"Unsupported sign mode for signing: {options.mode.name}"))

/-- The signature of a member of a key made of others, over the legacy document. -/
def signMember (k : Key) (t : Tx) (options : SignOptions) : Except Failure Bytes :=
  (legacyBytes t options).map k.signBytes

end Key
end CosmosClient
