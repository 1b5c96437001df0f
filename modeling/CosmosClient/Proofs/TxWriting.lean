import Mathlib
import CosmosClient.Proofs.MessageWriting
import CosmosClient.Proofs.TxEncoding

/-!
# Transactions told apart

Keys, messages, bodies and signers with a fee that are not the same are not encoded alike. An encoded
message of a type that is known could pass for a known message; it is the only one that can.
-/

namespace CosmosClient.Proofs
open Wire

lemma coin_toProto_injective : Function.Injective Coin.toProto :=
  injective_of_read coinOfProto_toProto

lemma coins_toProto_injective : Function.Injective Coins.toProto :=
  injective_of_read coinsOfProto_toProto

lemma party_toProto_injective : Function.Injective Message.partyToProto :=
  injective_of_read partyOfProto_toProto

mutual
/-- The induction is on one of the keys; its members are compared with those of the other. -/
lemma key_toAny_inj (key other : PublicKey) (h : key.toAny = other.toAny) : key = other := by
  match key, other with
  | .secp256k1 key, .secp256k1 other | .ed25519 key, .ed25519 other =>
    have hkey := pubKey_bytes_injective (congrArg Proto.Any.value h)
    rw [Proto.PubKey.mk.inj hkey]
  | .multisig threshold keys, .multisig threshold' others =>
    have hcontent := legacyAminoPubKey_bytes_injective (congrArg Proto.Any.value h)
    obtain ⟨rfl, hkeys⟩ := Proto.LegacyAminoPubKey.mk.inj hcontent
    rw [keys_toAnys_inj keys others hkeys]
  | .secp256k1 _, .ed25519 _ | .secp256k1 _, .multisig _ _ | .ed25519 _, .secp256k1 _
  | .ed25519 _, .multisig _ _ | .multisig _ _, .secp256k1 _ | .multisig _ _, .ed25519 _ =>
    exact absurd (congrArg Proto.Any.typeUrl h)
      (by simp [PublicKey.toAny, PublicKey.secp256k1Url, PublicKey.ed25519Url, PublicKey.multisigUrl])

lemma keys_toAnys_inj (keys others : List PublicKey)
    (h : PublicKey.toAnys keys = PublicKey.toAnys others) : keys = others := by
  match keys, others with
  | [], [] => rfl
  | [], _ :: _ | _ :: _, [] => simp [PublicKey.toAnys] at h
  | key :: keys, other :: others =>
    obtain ⟨hkey, hkeys⟩ := List.cons.inj h
    rw [key_toAny_inj key other hkey, keys_toAnys_inj keys others hkeys]
end

lemma kind?_of_toAny {m : Message} {any : Proto.Any} (hm : m.Canonical) (h : m.toAny = .ok any) :
    Message.Kind.ofTypeUrl? any.typeUrl = m.kind? := by
  cases m with
  | encoded other =>
    obtain rfl := Except.ok.inj h
    exact hm
  | json value => exact hm.elim
  | send _ _ _ | multiSend _ _ | delegate _ _ _ | undelegate _ _ _ | redelegate _ _ _ _
  | withdrawReward _ _ =>
    obtain rfl := Except.ok.inj h
    simp only [ofTypeUrl?_typeUrl, Message.kind?]

/-- Messages of different kinds have different types, and those of one kind different contents. -/
lemma message_toAny_inj {m n : Message} {any : Proto.Any} (hm : m.Canonical) (hn : n.Canonical)
    (h : m.toAny = .ok any) (h' : n.toAny = .ok any) : m = n := by
  have hkind : m.kind? = n.kind? := (kind?_of_toAny hm h).symm.trans (kind?_of_toAny hn h')
  have hvalue {a b : Proto.Any} (hab : (.ok a : Except ParseError Proto.Any) = .ok b) :
      b.value = a.value := congrArg Proto.Any.value (Except.ok.inj hab).symm
  cases m <;> cases n <;> simp only [Message.kind?, reduceCtorEq, Option.some.injEq] at hkind <;>
    first | exact hm.elim | exact hn.elim | obtain rfl := Except.ok.inj h
  case send.send =>
    have hcontent := msgSend_bytes_injective (hvalue h')
    obtain ⟨rfl, rfl, hamount⟩ := Proto.MsgSend.mk.inj hcontent
    rw [coins_toProto_injective hamount]
  case multiSend.multiSend =>
    have hcontent := msgMultiSend_bytes_injective (hvalue h')
    obtain ⟨hinputs, houtputs⟩ := Proto.MsgMultiSend.mk.inj hcontent
    rw [party_toProto_injective.list_map hinputs, party_toProto_injective.list_map houtputs]
  case delegate.delegate =>
    have hcontent := msgDelegate_bytes_injective (hvalue h')
    obtain ⟨rfl, rfl, hamount⟩ := Proto.MsgDelegate.mk.inj hcontent
    rw [coin_toProto_injective (Option.some.inj hamount)]
  case undelegate.undelegate =>
    have hcontent := msgDelegate_bytes_injective (hvalue h')
    obtain ⟨rfl, rfl, hamount⟩ := Proto.MsgDelegate.mk.inj hcontent
    rw [coin_toProto_injective (Option.some.inj hamount)]
  case redelegate.redelegate =>
    have hcontent := msgBeginRedelegate_bytes_injective (hvalue h')
    obtain ⟨rfl, rfl, rfl, hamount⟩ := Proto.MsgBeginRedelegate.mk.inj hcontent
    rw [coin_toProto_injective (Option.some.inj hamount)]
  case withdrawReward.withdrawReward =>
    have hcontent := msgWithdrawDelegatorReward_bytes_injective (hvalue h')
    obtain ⟨rfl, rfl⟩ := Proto.MsgWithdrawDelegatorReward.mk.inj hcontent
    rfl
  case encoded.encoded => rw [Except.ok.inj h']

lemma messages_toAny_inj {ms ns : List Message} {anys : List Proto.Any}
    (hms : ∀ m ∈ ms, m.Canonical) (hns : ∀ n ∈ ns, n.Canonical)
    (h : ms.mapM Message.toAny = .ok anys) (h' : ns.mapM Message.toAny = .ok anys) : ms = ns :=
  mapM_injective (fun m hm n hn _ => message_toAny_inj (hms m hm) (hns n hn)) h h'

lemma mode_toProto_injective : Function.Injective ModeInfo.toProto :=
  injective_of_read modeOfProto_toProto

lemma signer_toProto_injective : Function.Injective SignerInfo.toProto := by
  intro s t h
  obtain ⟨hkey, hmode, hsequence⟩ := Proto.SignerInfo.mk.inj h
  have hkey := Option.map_injective key_toAny_inj hkey
  have hmode := mode_toProto_injective (Option.some.inj hmode)
  cases s
  cases t
  simp_all

lemma fee_toProto_injective : Function.Injective Fee.toProto :=
  injective_of_read feeOfProto_toProto

lemma auth_toProto_injective : Function.Injective AuthInfo.toProto := by
  intro a b h
  obtain ⟨hsigners, hfee⟩ := Proto.AuthInfo.mk.inj h
  have hsigners := signer_toProto_injective.list_map hsigners
  have hfee := fee_toProto_injective (Option.some.inj hfee)
  cases a
  cases b
  simp_all

lemma body_toProto_inj {b c : TxBody} {p : Proto.TxBody} (hb : ∀ m ∈ b.messages, m.Canonical)
    (hc : ∀ m ∈ c.messages, m.Canonical) (h : b.toProto = .ok p) (h' : c.toProto = .ok p) :
    b = c := by
  obtain ⟨anys, hanys, rfl⟩ := map_eq_ok.1 h
  obtain ⟨others, hothers, heq⟩ := map_eq_ok.1 h'
  obtain ⟨rfl, hmemo, htimeout⟩ := Proto.TxBody.mk.inj heq
  have hmessages := messages_toAny_inj hb hc hanys hothers
  cases b
  cases c
  simp_all

end CosmosClient.Proofs
