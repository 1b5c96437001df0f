import CosmosClient.Tx

/-!
# Signatures of several members

Collects the signatures for a key made of others. A row of bits marks who has signed, and the
signatures stand in the order of the members.
-/

namespace CosmosClient

/-- The signatures collected so far for a key made of others. -/
structure MultiSignature where
  threshold : UInt32
  members : List PublicKey
  signed : BitArray
  signatures : List Bytes
  deriving DecidableEq, Repr

namespace MultiSignature

def start : PublicKey → Except Failure MultiSignature
  | .multisig threshold members => .ok ⟨threshold, members, BitArray.ofSize members.length, []⟩
  | key => .error (Failure.text s!"Expected a multisig public key, got {key.typeUrl}")

/-- Records the signature of a member in the place of an earlier one. -/
def add (m : MultiSignature) (member : PublicKey) (signature : Bytes) :
    Except Failure MultiSignature :=
  match m.members.findIdx? fun key => key == member with
  | none => .error (Failure.text "Public key is not a member of this multisig")
  | some i =>
    let place := m.signed.countBefore i
    if m.signed.get i then .ok { m with signatures := m.signatures.set place signature }
    else
      .ok { m with
        signed := (m.signed.set? i true).getD m.signed
        signatures := m.signatures.insertIdx place signature }

def count (m : MultiSignature) : Nat := m.signatures.length

/-- Whether enough members have signed. -/
def thresholdReached (m : MultiSignature) : Bool := m.threshold.toNat ≤ m.count

/-- How the signatures were made: each over a legacy document. -/
def mode (m : MultiSignature) : ModeInfo :=
  .multi m.signed (m.signatures.map fun _ => .single .legacyAminoJson)

/-- The encoded signatures. -/
def bytes (m : MultiSignature) : Bytes := (Proto.MultiSignature.mk m.signatures).bytes

/-- The signer that stands for the members. -/
def signer (m : MultiSignature) (sequence : UInt64) : SignerInfo :=
  ⟨some (.multisig m.threshold m.members), m.mode, sequence⟩

end MultiSignature
end CosmosClient
