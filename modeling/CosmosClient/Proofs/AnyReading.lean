import Mathlib
import CosmosClient.Proofs.CoinReading
import CosmosClient.Proofs.MessageReading
import CosmosClient.PublicKey

/-!
# Contents of any type read back

Keys and messages travel within messages of any type, as bytes that are decoded by themselves: each
has all the levels of nesting of its own. A key of keys is read within a bound that its length gives.
-/

namespace CosmosClient

/-- A known message, or an encoded one whose type is none of the known types. -/
def Message.Canonical : Message → Prop
  | .encoded any => Message.Kind.ofTypeUrl? any.typeUrl = none
  | .json _ => False
  | _ => True

instance (m : Message) : Decidable m.Canonical :=
  match m with
  | .encoded any => inferInstanceAs (Decidable (Message.Kind.ofTypeUrl? any.typeUrl = none))
  | .json _ => inferInstanceAs (Decidable False)
  | .send .. | .multiSend .. | .delegate .. | .undelegate .. | .redelegate .. | .withdrawReward .. =>
    inferInstanceAs (Decidable True)

end CosmosClient

namespace CosmosClient.Proofs
open Wire

lemma length_lt_of_items {k : Nat} {b : Bytes} {bs : List Bytes} (h : b ∈ bs) :
    b.length < (encode (items k bs)).length := by
  induction bs with
  | nil => simp at h
  | cons c bs ih =>
    have hkey := varintBytes_length_pos (8 * k + Kind.delimited.code)
    rw [items, List.map_cons, encode_cons, List.length_append]
    rcases List.mem_cons.1 h with rfl | h
    · simp only [item, Field.bytes, Payload.kind, Payload.bytes, List.length_append]
      omega
    · have hrest := ih h
      rw [items] at hrest
      omega

lemma value_length_le (a : Proto.Any) : a.value.length ≤ a.bytes.length := by
  rw [Proto.Any.bytes, Proto.Any.fields, encode_append, List.length_append, Wire.bytes]
  by_cases hnil : a.value = []
  · simp [hnil]
  · have hlt := length_lt_of_items (k := 2) (List.mem_singleton.2 (Eq.refl a.value))
    rw [items, List.map_singleton] at hlt
    rw [if_neg hnil]
    omega

lemma fits_value {a : Proto.Any} (h : Fits a.bytes) : Fits a.value :=
  lt_of_le_of_lt (value_length_le a) h

/-- The members of a key are shorter than the key. -/
lemma member_length_lt (threshold : UInt32) {keys : List PublicKey} {a : Proto.Any}
    (h : a ∈ PublicKey.toAnys keys) :
    a.bytes.length < (PublicKey.toAny (.multisig threshold keys)).value.length := by
  have hlt := length_lt_of_items (k := 2) (List.mem_map_of_mem (f := Proto.Any.bytes) h)
  simp only [PublicKey.toAny, Proto.LegacyAminoPubKey.bytes, encode_append, List.length_append]
  omega

mutual
lemma ofAnyWithin_toAny (key : PublicKey) (bound : Nat) (hbound : key.toAny.value.length < bound)
    (h : Fits key.toAny.value) : PublicKey.ofAnyWithin bound key.toAny = .ok key := by
  obtain ⟨bound, rfl⟩ := Nat.exists_eq_add_one.mpr (Nat.zero_lt_of_lt hbound)
  match key with
  | .secp256k1 key =>
    have hread := decode_bytes (reads_pubKey ⟨key⟩ _ h)
    simp only [PublicKey.ofAnyWithin, PublicKey.toAny, if_true, hread, Except.mapError, Except.map]
  | .ed25519 key =>
    have hread := decode_bytes (reads_pubKey ⟨key⟩ _ h)
    have hurl : PublicKey.ed25519Url ≠ PublicKey.secp256k1Url := by decide
    simp only [PublicKey.ofAnyWithin, PublicKey.toAny, if_true, if_neg hurl, hread, Except.mapError,
      Except.map]
  | .multisig threshold keys =>
    have hread := decode_bytes
      (reads_legacyAminoPubKey ⟨threshold, PublicKey.toAnys keys⟩ (by decide) h)
    have hlt : ∀ a ∈ PublicKey.toAnys keys, a.value.length < bound := by
      intro a ha
      have hle := value_length_le a
      have hmember := member_length_lt threshold ha
      omega
    have hfits : ∀ a ∈ PublicKey.toAnys keys, Fits a.value := fun a ha =>
      fits_value (lt_trans (member_length_lt threshold ha) h)
    have hkeys := ofAnysWithin_toAnys keys bound hlt hfits
    have hfirst : PublicKey.multisigUrl ≠ PublicKey.secp256k1Url := by decide
    have hsecond : PublicKey.multisigUrl ≠ PublicKey.ed25519Url := by decide
    simp only [PublicKey.ofAnyWithin, PublicKey.toAny, if_true, if_neg hfirst, if_neg hsecond, hread,
      hkeys, Except.mapError, bind, Except.bind, pure, Except.pure]

lemma ofAnysWithin_toAnys (keys : List PublicKey) (bound : Nat)
    (hbound : ∀ a ∈ PublicKey.toAnys keys, a.value.length < bound)
    (h : ∀ a ∈ PublicKey.toAnys keys, Fits a.value) :
    (PublicKey.toAnys keys).mapM (PublicKey.ofAnyWithin bound) = .ok keys := by
  match keys with
  | [] => rfl
  | key :: keys =>
    simp only [PublicKey.toAnys, List.mem_cons, forall_eq_or_imp] at hbound h
    have hkey := ofAnyWithin_toAny key bound hbound.1 h.1
    have hkeys := ofAnysWithin_toAnys keys bound hbound.2 h.2
    rw [PublicKey.toAnys, List.mapM_cons, hkey, hkeys]
    rfl
end

/-- A key is read back from a message of any type, however deep its keys nest. -/
lemma keyOfAny_toAny (key : PublicKey) (h : Fits key.toAny.value) :
    PublicKey.ofAny key.toAny = .ok key :=
  ofAnyWithin_toAny key _ (Nat.lt_succ_self _) h

lemma ofTypeUrl?_typeUrl (kind : Message.Kind) :
    Message.Kind.ofTypeUrl? kind.typeUrl = some kind := by
  cases kind <;> decide

lemma toAny_error_iff (m : Message) :
    (∃ e, m.toAny = .error e) ↔ ∃ value, m = .json value := by
  cases m <;> simp [Message.toAny]

lemma toAny_of_canonical {m : Message} (h : m.Canonical) : ∃ any, m.toAny = .ok any := by
  cases m <;> simp_all [Message.toAny, Message.Canonical]

lemma canonical_of_kind {m : Message} {kind : Message.Kind} (h : m.kind? = some kind) :
    m.Canonical := by
  cases m <;> simp_all [Message.kind?, Message.Canonical]

lemma requiredAmount_toProto (c : Coin) (context : String) :
    Message.requiredAmount (some c.toProto) context = .ok c :=
  coinOfProto_toProto c

lemma partiesOfProto_toProto (parties : List Party) :
    (parties.map Message.partyToProto).mapM Message.partyOfProto = .ok parties :=
  mapM_map_ok fun p _ => partyOfProto_toProto p

/-- A message is read back from a message of any type. -/
lemma messageOfAny_toAny {m : Message} {any : Proto.Any} (hm : m.Canonical)
    (hany : m.toAny = .ok any) (h : Fits any.value) : Message.ofAny any = .ok m := by
  cases m with
  | send source target amount =>
    obtain rfl := Except.ok.inj hany
    have hread := decode_bytes (reads_msgSend ⟨source, target, amount.toProto⟩ (by decide) h)
    simp only [Message.ofAny, ofTypeUrl?_typeUrl, Message.ofValue, hread, Except.mapError, bind,
      Except.bind, coinsOfProto_toProto, pure, Except.pure]
  | multiSend inputs outputs =>
    obtain rfl := Except.ok.inj hany
    have hread := decode_bytes (reads_msgMultiSend
      ⟨inputs.map Message.partyToProto, outputs.map Message.partyToProto⟩ (by decide) h)
    simp only [Message.ofAny, ofTypeUrl?_typeUrl, Message.ofValue, hread, Except.mapError, bind,
      Except.bind, partiesOfProto_toProto, pure, Except.pure]
  | delegate delegator validator amount =>
    obtain rfl := Except.ok.inj hany
    have hread := decode_bytes (reads_msgDelegate "MsgDelegate"
      ⟨delegator, validator, some amount.toProto⟩ (by decide) h)
    simp only [Message.ofAny, ofTypeUrl?_typeUrl, Message.ofValue, hread, Except.mapError, bind,
      Except.bind, requiredAmount_toProto, pure, Except.pure]
  | undelegate delegator validator amount =>
    obtain rfl := Except.ok.inj hany
    have hread := decode_bytes (reads_msgDelegate "MsgUndelegate"
      ⟨delegator, validator, some amount.toProto⟩ (by decide) h)
    simp only [Message.ofAny, ofTypeUrl?_typeUrl, Message.ofValue, hread, Except.mapError, bind,
      Except.bind, requiredAmount_toProto, pure, Except.pure]
  | redelegate delegator source target amount =>
    obtain rfl := Except.ok.inj hany
    have hread := decode_bytes (reads_msgBeginRedelegate
      ⟨delegator, source, target, some amount.toProto⟩ (by decide) h)
    simp only [Message.ofAny, ofTypeUrl?_typeUrl, Message.ofValue, hread, Except.mapError, bind,
      Except.bind, requiredAmount_toProto, pure, Except.pure]
  | withdrawReward delegator validator =>
    obtain rfl := Except.ok.inj hany
    have hread := decode_bytes (reads_msgWithdrawDelegatorReward
      ⟨delegator, validator⟩ h)
    simp only [Message.ofAny, ofTypeUrl?_typeUrl, Message.ofValue, hread, Except.mapError, bind,
      Except.bind, pure, Except.pure]
  | encoded other =>
    obtain rfl := Except.ok.inj hany
    have hkind : Message.Kind.ofTypeUrl? other.typeUrl = none := hm
    simp only [Message.ofAny, hkind]
  | json value => exact hm.elim

end CosmosClient.Proofs
