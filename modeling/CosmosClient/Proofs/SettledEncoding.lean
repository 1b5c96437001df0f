import Mathlib
import CosmosClient.Proofs.Reencoding
import CosmosClient.Proofs.TxWriting

/-!
# Encodings that come back

A decoded transaction is named by the hash of its own encoding, which is the encoding that it was
decoded from only where nothing was left out, put in order or filled in on the way.
-/

namespace CosmosClient.Proto

/-- Coins as a sum of coins is written: by denomination, each once, with plain amounts of which none
is zero. -/
def SettledCoins (coins : List Coin) : Prop :=
  coins.Pairwise (fun c d => c.denom < d.denom) ∧
    ∀ c ∈ coins, ∃ a : Amount, a.toNat ≠ 0 ∧ c.amount = a.write

/-- A key in its own encoding. -/
inductive Any.SettledKey : Any → Prop
  | secp256k1 (key : Bytes) : SettledKey ⟨PublicKey.secp256k1Url, (PubKey.mk key).bytes⟩
  | ed25519 (key : Bytes) : SettledKey ⟨PublicKey.ed25519Url, (PubKey.mk key).bytes⟩
  | multisig (threshold : UInt32) {keys : List Any} (h : ∀ k ∈ keys, SettledKey k) :
      SettledKey ⟨PublicKey.multisigUrl, (LegacyAminoPubKey.mk threshold keys).bytes⟩

/-- A message in its own encoding, with settled coins, or a message of another type. -/
inductive Any.SettledMessage : Any → Prop
  | send (m : MsgSend) (h : SettledCoins m.amount) :
      SettledMessage ⟨Message.Kind.send.typeUrl, m.bytes⟩
  | multiSend (m : MsgMultiSend) (h : ∀ p ∈ m.inputs ++ m.outputs, SettledCoins p.coins) :
      SettledMessage ⟨Message.Kind.multiSend.typeUrl, m.bytes⟩
  | delegate (delegator validator denom : String) (a : Amount) :
      SettledMessage ⟨Message.Kind.delegate.typeUrl,
        (MsgDelegate.mk delegator validator (some ⟨denom, a.write⟩)).bytes⟩
  | undelegate (delegator validator denom : String) (a : Amount) :
      SettledMessage ⟨Message.Kind.undelegate.typeUrl,
        (MsgDelegate.mk delegator validator (some ⟨denom, a.write⟩)).bytes⟩
  | redelegate (delegator source target denom : String) (a : Amount) :
      SettledMessage ⟨Message.Kind.redelegate.typeUrl,
        (MsgBeginRedelegate.mk delegator source target (some ⟨denom, a.write⟩)).bytes⟩
  | withdrawReward (m : MsgWithdrawDelegatorReward) :
      SettledMessage ⟨Message.Kind.withdrawReward.typeUrl, m.bytes⟩
  | other {any : Any} (h : Message.Kind.ofTypeUrl? any.typeUrl = none) : SettledMessage any

/-- A transaction of which nothing changes when it is decoded and encoded again. -/
structure Tx.Settled (t : Tx) : Prop where
  messages : ∀ b ∈ t.body, ∀ any ∈ b.messages, any.SettledMessage
  keys : ∀ a ∈ t.authInfo, ∀ s ∈ a.signerInfos, ∀ key ∈ s.publicKey, key.SettledKey
  modes : t.BitsGiven
  fee : ∀ a ∈ t.authInfo, ∀ f ∈ a.fee, SettledCoins f.amount

/-- What a signer offers to whoever brings the transaction to the chain. -/
structure Tip where
  amount : List Coin
  tipper : String

def Tip.bytes (t : Tip) : Bytes :=
  Wire.encode (coinFields 1 t.amount ++ Wire.text 2 t.tipper)

/-- A transaction with the fields that are checked when it is read but not kept. -/
structure FullTx where
  body : TxBody
  authInfo : AuthInfo
  signatures : List Bytes
  /-- Options that every node must know. -/
  extensions : List Any := []
  /-- Options that nodes may ignore. -/
  hints : List Any := []
  tip : Option Tip := none

namespace FullTx

/-- The encoded body, with the options behind its other fields. -/
def bodyBytes (w : FullTx) : Bytes :=
  w.body.bytes ++
    Wire.encode (Wire.items 1023 (w.extensions.map Any.bytes) ++
      Wire.items 2047 (w.hints.map Any.bytes))

/-- The encoded signers and fee, with the tip behind them. -/
def authBytes (w : FullTx) : Bytes :=
  w.authInfo.bytes ++ Wire.encode (Wire.items 3 (w.tip.toList.map Tip.bytes))

def bytes (w : FullTx) : Bytes :=
  Wire.encode (Wire.item 1 w.bodyBytes :: Wire.item 2 w.authBytes :: Wire.items 3 w.signatures)

/-- The transaction without the fields that are not kept. -/
def kept (w : FullTx) : Tx := ⟨some w.body, some w.authInfo, w.signatures⟩

end FullTx
end CosmosClient.Proto

namespace CosmosClient.Proofs
open Wire

lemma settledCoins_toProto (cs : Coins) : Proto.SettledCoins cs.toProto := by
  constructor
  · rw [Coins.toProto, List.pairwise_map]
    exact cs.sorted
  · rw [Coins.toProto, List.forall_mem_map]
    intro c hc
    exact ⟨c.amount, cs.nonzero c hc, rfl⟩

lemma write_injective : Function.Injective Amount.write := by
  have hread : Function.Injective fun a : Amount => a.write.toList := injective_of_read read_write
  exact hread.of_comp (f := String.toList)

lemma exists_coins {coins : List Proto.Coin} (h : Proto.SettledCoins coins) :
    ∃ cs : Coins, cs.toProto = coins := by
  obtain ⟨hsorted, hamounts⟩ := h
  have hrange : coins ∈ Set.range (List.map Coin.toProto) := by
    rw [Set.range_list_map]
    intro c hc
    obtain ⟨a, -, ha⟩ := hamounts c hc
    exact ⟨⟨c.denom, a⟩, by rw [Coin.toProto, ← ha]⟩
  obtain ⟨cs, rfl⟩ := hrange
  rw [List.pairwise_map] at hsorted
  rw [List.forall_mem_map] at hamounts
  refine ⟨⟨cs, hsorted, fun c hc => ?_⟩, rfl⟩
  obtain ⟨a, hnonzero, ha⟩ := hamounts c hc
  rwa [show c.amount = a from write_injective ha]

lemma coins_settled {coins : List Proto.Coin} {cs : Coins} (hcoins : Proto.SettledCoins coins)
    (h : Coins.ofProto coins = .ok cs) : cs.toProto = coins := by
  obtain ⟨ds, rfl⟩ := exists_coins hcoins
  rw [coinsOfProto_toProto] at h
  rw [Except.ok.inj h]

mutual
lemma settledKey_toAny (key : PublicKey) : key.toAny.SettledKey := by
  match key with
  | .secp256k1 key => exact .secp256k1 key
  | .ed25519 key => exact .ed25519 key
  | .multisig threshold keys => exact .multisig threshold (settledKeys_toAnys keys)

lemma settledKeys_toAnys (keys : List PublicKey) :
    ∀ any ∈ PublicKey.toAnys keys, any.SettledKey := by
  match keys with
  | [] => simp [PublicKey.toAnys]
  | key :: keys =>
    rw [PublicKey.toAnys, List.forall_mem_cons]
    exact ⟨settledKey_toAny key, settledKeys_toAnys keys⟩
end

lemma exists_keys {anys : List Proto.Any} (h : ∀ any ∈ anys, ∃ key : PublicKey, key.toAny = any) :
    ∃ keys, PublicKey.toAnys keys = anys := by
  induction anys with
  | nil => exact ⟨[], rfl⟩
  | cons any anys ih =>
    obtain ⟨⟨key, rfl⟩, hrest⟩ := List.forall_mem_cons.1 h
    obtain ⟨keys, rfl⟩ := ih hrest
    exact ⟨key :: keys, rfl⟩

lemma exists_key {any : Proto.Any} (h : any.SettledKey) : ∃ key : PublicKey, key.toAny = any := by
  induction h with
  | secp256k1 key => exact ⟨.secp256k1 key, rfl⟩
  | ed25519 key => exact ⟨.ed25519 key, rfl⟩
  | multisig threshold _ ih =>
    obtain ⟨keys, rfl⟩ := exists_keys ih
    exact ⟨.multisig threshold keys, rfl⟩

lemma key_settled {any : Proto.Any} {key : PublicKey} (hany : any.SettledKey)
    (h : PublicKey.ofAny any = .ok key) (hfits : Fits any.value) : key.toAny = any := by
  obtain ⟨other, rfl⟩ := exists_key hany
  rw [keyOfAny_toAny other hfits] at h
  rw [Except.ok.inj h]

lemma settledCoins_parties {parties : List Party} :
    ∀ p ∈ parties.map Message.partyToProto, Proto.SettledCoins p.coins :=
  List.forall_mem_map.2 fun p _ => settledCoins_toProto p.coins

lemma exists_parties {parties : List Proto.Party}
    (h : ∀ p ∈ parties, Proto.SettledCoins p.coins) :
    ∃ ps : List Party, ps.map Message.partyToProto = parties := by
  have hrange : parties ∈ Set.range (List.map Message.partyToProto) := by
    rw [Set.range_list_map]
    intro p hp
    obtain ⟨cs, hcs⟩ := exists_coins (h p hp)
    exact ⟨⟨p.address, cs⟩, by rw [Message.partyToProto, hcs]⟩
  exact hrange

lemma settledMessage_toAny {m : Message} {any : Proto.Any} (hm : m.Canonical)
    (h : m.toAny = .ok any) : any.SettledMessage := by
  cases m with
  | send source target amount =>
    obtain rfl := Except.ok.inj h
    exact .send ⟨source, target, amount.toProto⟩ (settledCoins_toProto amount)
  | multiSend inputs outputs =>
    obtain rfl := Except.ok.inj h
    exact .multiSend ⟨inputs.map Message.partyToProto, outputs.map Message.partyToProto⟩
      (List.forall_mem_append.2 ⟨settledCoins_parties, settledCoins_parties⟩)
  | delegate delegator validator amount =>
    obtain rfl := Except.ok.inj h
    exact .delegate delegator validator amount.denom amount.amount
  | undelegate delegator validator amount =>
    obtain rfl := Except.ok.inj h
    exact .undelegate delegator validator amount.denom amount.amount
  | redelegate delegator source target amount =>
    obtain rfl := Except.ok.inj h
    exact .redelegate delegator source target amount.denom amount.amount
  | withdrawReward delegator validator =>
    obtain rfl := Except.ok.inj h
    exact .withdrawReward ⟨delegator, validator⟩
  | encoded any =>
    obtain rfl := Except.ok.inj h
    exact .other hm
  | json value => exact hm.elim

lemma exists_message {any : Proto.Any} (h : any.SettledMessage) :
    ∃ m : Message, m.Canonical ∧ m.toAny = .ok any := by
  cases h with
  | send m h =>
    obtain ⟨cs, hcs⟩ := exists_coins h
    exact ⟨.send m.fromAddress m.toAddress cs, trivial, by rw [Message.toAny, hcs]⟩
  | multiSend m h =>
    obtain ⟨hinputs, houtputs⟩ := List.forall_mem_append.1 h
    obtain ⟨inputs, hi⟩ := exists_parties hinputs
    obtain ⟨outputs, ho⟩ := exists_parties houtputs
    exact ⟨.multiSend inputs outputs, trivial, by rw [Message.toAny, hi, ho]⟩
  | delegate delegator validator denom a =>
    exact ⟨.delegate delegator validator ⟨denom, a⟩, trivial, rfl⟩
  | undelegate delegator validator denom a =>
    exact ⟨.undelegate delegator validator ⟨denom, a⟩, trivial, rfl⟩
  | redelegate delegator source target denom a =>
    exact ⟨.redelegate delegator source target ⟨denom, a⟩, trivial, rfl⟩
  | withdrawReward m => exact ⟨.withdrawReward m.delegatorAddress m.validatorAddress, trivial, rfl⟩
  | other h => exact ⟨.encoded any, h, rfl⟩

lemma message_settled {any : Proto.Any} {m : Message} (hany : any.SettledMessage)
    (h : Message.ofAny any = .ok m) (hfits : Fits any.value) : m.toAny = .ok any := by
  obtain ⟨other, hcanonical, hother⟩ := exists_message hany
  rw [messageOfAny_toAny hcanonical hother hfits] at h
  rwa [← Except.ok.inj h]

mutual
lemma bitsGiven_toProto (m : ModeInfo) : m.toProto.BitsGiven := by
  match m with
  | .single mode => exact .single mode.number
  | .multi signed members => exact .multi signed.toProto (bitsGiven_toProtos members)

lemma bitsGiven_toProtos (ms : List ModeInfo) : ∀ m ∈ ModeInfo.toProtos ms, m.BitsGiven := by
  match ms with
  | [] => simp [ModeInfo.toProtos]
  | m :: ms =>
    rw [ModeInfo.toProtos, List.forall_mem_cons]
    exact ⟨bitsGiven_toProto m, bitsGiven_toProtos ms⟩
end

lemma signer_settled {r : Proto.SignerInfo} {s : SignerInfo} (h : SignerInfo.ofProto r = .ok s)
    (hkey : ∀ key ∈ r.publicKey, key.SettledKey) (hmode : ∀ m ∈ r.modeInfo, m.BitsGiven)
    (hfits : Fits r.bytes) : s.toProto = r := by
  obtain ⟨m, hm, hpublic, hof, hsequence⟩ := signerOfProto_eq_ok h
  have hkeys : s.publicKey.map PublicKey.toAny = r.publicKey := by
    cases hr : r.publicKey with
    | none =>
      rw [hr] at hpublic
      rw [← Except.ok.inj hpublic]
      rfl
    | some any =>
      rw [hr] at hpublic hkey
      obtain ⟨key, hany, hsome⟩ := map_eq_ok.1 hpublic
      rw [Proto.SignerInfo.bytes, hr, encode_append, encode_append] at hfits
      have hvalue := fits_value (fits_of_items (fits_of_append_left (fits_of_append_left hfits))
        any.bytes (List.mem_singleton.2 rfl))
      rw [← hsome, Option.map_some, key_settled (hkey any rfl) hany hvalue]
  rw [SignerInfo.toProto, hkeys, mode_settled (hmode m hm) hof, ← hm, ← hsequence]

lemma auth_settled {p : Proto.AuthInfo} {a : AuthInfo} (h : AuthInfo.ofProto p = .ok a)
    (hkeys : ∀ s ∈ p.signerInfos, ∀ key ∈ s.publicKey, key.SettledKey)
    (hmodes : ∀ s ∈ p.signerInfos, ∀ m ∈ s.modeInfo, m.BitsGiven)
    (hfee : ∀ f ∈ p.fee, Proto.SettledCoins f.amount) (hfits : Fits p.bytes) : a.toProto = p := by
  obtain ⟨f, hf, hsigners, hof⟩ := authOfProto_eq_ok h
  rw [Proto.AuthInfo.bytes, encode_append] at hfits
  have hback : a.signers.map SignerInfo.toProto = p.signerInfos := by
    refine map_of_mapM_eq_ok hsigners fun s hs b hb => ?_
    exact signer_settled hb (hkeys s hs) (hmodes s hs)
      (fits_of_items (fits_of_append_left hfits) _ (List.mem_map_of_mem hs))
  obtain ⟨amount, hamount, hfeeOf⟩ := map_eq_ok.1 hof
  have hcoins := coins_settled (hfee f hf) hamount
  rw [AuthInfo.toProto, hback, ← hfeeOf, Fee.toProto, hcoins, ← hf]

lemma settled_toProto {t : Tx} {p : Proto.Tx} (hcanonical : ∀ m ∈ t.body.messages, m.Canonical)
    (hp : t.toProto = .ok p) : p.Settled := by
  obtain ⟨body, hbody, rfl⟩ := map_eq_ok.1 hp
  obtain ⟨anys, hanys, rfl⟩ := map_eq_ok.1 hbody
  constructor
  · intro b hb any hany
    obtain rfl := Option.some.inj hb
    obtain ⟨m, hm, htoAny⟩ := mem_of_mapM_eq_ok hanys any hany
    exact settledMessage_toAny (hcanonical m hm) htoAny
  · intro a ha r hr any hany
    obtain rfl := Option.some.inj ha
    obtain ⟨s, -, rfl⟩ := List.mem_map.1 hr
    obtain ⟨key, -, rfl⟩ := Option.map_eq_some_iff.1 hany
    exact settledKey_toAny key
  · intro a ha r hr m hm
    obtain rfl := Option.some.inj ha
    obtain ⟨s, -, rfl⟩ := List.mem_map.1 hr
    obtain rfl := Option.some.inj hm
    exact bitsGiven_toProto s.mode
  · intro a ha f hf
    obtain rfl := Option.some.inj ha
    obtain rfl := Option.some.inj hf
    exact settledCoins_toProto t.authInfo.fee.amount

lemma toProto_of_settled {q : Proto.Tx} {t : Tx} (hq : q.Settled) (h : Tx.ofProto q = .ok t)
    (hfits : Fits q.bytes) : t.toProto = .ok q := by
  obtain ⟨b, a, rfl, hbody, hauth⟩ := txOfProto_eq_ok h
  rw [Proto.Tx.bytes, encode_append, encode_append] at hfits
  have hparts := fits_of_append_left hfits
  have hb : Fits b.bytes := fits_of_items (fits_of_append_left hparts) _ (List.mem_singleton.2 rfl)
  have ha : Fits a.bytes := fits_of_items (fits_of_append_right hparts) _ (List.mem_singleton.2 rfl)
  have hauthBack := auth_settled hauth (hq.keys a rfl) (hq.modes a rfl) (hq.fee a rfl) ha
  obtain ⟨hmessages, hmemo, htimeout⟩ := bodyOfProto_eq_ok hbody
  rw [Proto.TxBody.bytes, encode_append, encode_append] at hb
  have hanys : t.body.messages.mapM Message.toAny = .ok b.messages := by
    refine mapM_of_mapM_eq_ok hmessages fun any hany m hm => ?_
    exact message_settled (hq.messages b rfl any hany) hm (fits_value
      (fits_of_items (fits_of_append_left (fits_of_append_left hb)) _ (List.mem_map_of_mem hany)))
  rw [Tx.toProto, TxBody.toProto, hanys, map_ok, map_ok, hauthBack, ← hmemo, ← htimeout]

/-! ### Fields that are not kept -/

@[simp]
lemma items_eq_nil {k : Nat} {bs : List Bytes} : items k bs = [] ↔ bs = [] :=
  List.map_eq_nil_iff

lemma bodyBytes_eq {w : Proto.FullTx} {b : Proto.TxBody} (h : w.bodyBytes = b.bytes) :
    w.extensions = [] ∧ w.hints = [] ∧ b = w.body := by
  have hfields := h
  rw [Proto.FullTx.bodyBytes, Proto.TxBody.bytes, ← encode_append] at hfields
  have hextensions : w.extensions = [] := by simpa using numbered_eq hfields 1023
  have hhints : w.hints = [] := by simpa using numbered_eq hfields 2047
  refine ⟨hextensions, hhints, txBody_bytes_injective ?_⟩
  rw [← h, Proto.FullTx.bodyBytes, hextensions, hhints]
  exact List.append_nil _

lemma authBytes_eq {w : Proto.FullTx} {a : Proto.AuthInfo} (h : w.authBytes = a.bytes) :
    w.tip = none ∧ a = w.authInfo := by
  have hfields := h
  rw [Proto.FullTx.authBytes, Proto.AuthInfo.bytes, ← encode_append] at hfields
  have htip : w.tip = none := by simpa using numbered_eq hfields 3
  refine ⟨htip, authInfo_bytes_injective ?_⟩
  rw [← h, Proto.FullTx.authBytes, htip]
  exact List.append_nil _

/-- Bytes with fields that are not kept are not those of a message without them. -/
lemma fullTx_bytes_eq_iff {w : Proto.FullTx} {q : Proto.Tx} :
    w.bytes = q.bytes ↔ (w.extensions = [] ∧ w.hints = [] ∧ w.tip = none) ∧ q = w.kept := by
  constructor
  · intro h
    obtain ⟨body, authInfo, signatures⟩ := q
    have hfields : items 1 [w.bodyBytes] ++ items 2 [w.authBytes] ++ items 3 w.signatures =
        items 1 (body.toList.map Proto.TxBody.bytes) ++
          items 2 (authInfo.toList.map Proto.AuthInfo.bytes) ++ items 3 signatures :=
      encode_injective h
    have hbody := items_injective 1 (by simpa using congrArg (numbered 1) hfields)
    have hauth := items_injective 2 (by simpa using congrArg (numbered 2) hfields)
    have hsignatures := items_injective 3 (by simpa using congrArg (numbered 3) hfields)
    obtain ⟨b, rfl, hb⟩ : ∃ b, body = some b ∧ w.bodyBytes = b.bytes := by
      cases body <;> simp_all
    obtain ⟨a, rfl, ha⟩ : ∃ a, authInfo = some a ∧ w.authBytes = a.bytes := by
      cases authInfo <;> simp_all
    obtain ⟨hextensions, hhints, rfl⟩ := bodyBytes_eq hb
    obtain ⟨htip, rfl⟩ := authBytes_eq ha
    exact ⟨⟨hextensions, hhints, htip⟩, by rw [← hsignatures, Proto.FullTx.kept]⟩
  · rintro ⟨⟨hextensions, hhints, htip⟩, rfl⟩
    have hbody : w.bodyBytes = w.body.bytes := by
      rw [Proto.FullTx.bodyBytes, hextensions, hhints]
      exact List.append_nil _
    have hauth : w.authBytes = w.authInfo.bytes := by
      rw [Proto.FullTx.authBytes, htip]
      exact List.append_nil _
    rw [Proto.FullTx.bytes, hbody, hauth]
    rfl

/-- A decoded transaction is encoded as it came exactly when it came as a settled message, so that
its hash is the one of the bytes: in the order and with the numbers of its own encoding, with coins,
keys and modes as they are written here, and without the fields that are not kept. -/
theorem reencoded_same_iff {b : Bytes} {t : Tx} (hfits : Fits b) (h : Tx.ofBytes b = .ok t) :
    (t.toBytes = .ok b ↔ ∃ q : Proto.Tx, b = q.bytes ∧ q.Settled) ∧
      (t.toBytes = .ok b → t.hash = .ok (Tx.hashBytes b)) ∧
      ∀ w : Proto.FullTx, b = w.bytes → (t.toBytes = .ok b ↔
        (w.extensions = [] ∧ w.hints = [] ∧ w.tip = none) ∧ w.kept.Settled) := by
  have hsettled : t.toBytes = .ok b ↔ ∃ q : Proto.Tx, b = q.bytes ∧ q.Settled := by
    constructor
    · intro hsame
      obtain ⟨q, -, hof⟩ := txOfBytes_eq_ok.1 h
      obtain ⟨p, hp, rfl⟩ := map_eq_ok.1 hsame
      exact ⟨p, rfl, settled_toProto (canonical_of_ofProto hof) hp⟩
    · rintro ⟨q, rfl, hq⟩
      obtain ⟨r, hr, hof⟩ := txOfBytes_eq_ok.1 h
      obtain rfl := eq_of_decode tx_deepens (fun room hroom => reads_tx q hroom hfits) hr
      exact map_eq_ok.2 ⟨r, toProto_of_settled hq hof hfits, rfl⟩
  refine ⟨hsettled, ?_, ?_⟩
  · intro hsame
    rw [Tx.hash, hsame, map_ok]
  · rintro w rfl
    rw [hsettled]
    constructor
    · rintro ⟨q, hbytes, hq⟩
      obtain ⟨hnone, rfl⟩ := fullTx_bytes_eq_iff.1 hbytes
      exact ⟨hnone, hq⟩
    · rintro ⟨hnone, hkept⟩
      exact ⟨w.kept, fullTx_bytes_eq_iff.2 ⟨hnone, rfl⟩, hkept⟩

/-- A transaction without messages, with a signer and a fee. -/
def settledProto : Proto.Tx :=
  ⟨some {}, some ⟨[⟨none, some (.single 1), 4⟩], some ⟨[⟨"uatom", "10"⟩], 200, "", ""⟩⟩, [[5]]⟩

def settledTx : Tx :=
  ⟨⟨[], "", 0⟩, ⟨[⟨none, .single .direct, 4⟩],
    Fee.ofGas 200 ⟨[⟨"uatom", ⟨10, by decide⟩⟩], by simp, by simp⟩⟩, [[5]]⟩

theorem settledTx_hash : Fits settledProto.bytes ∧ Tx.ofBytes settledProto.bytes = .ok settledTx ∧
    settledProto.Settled ∧ settledTx.hash = .ok (Tx.hashBytes settledProto.bytes) := by
  have hfits : Fits settledProto.bytes := by
    unfold Fits
    decide +kernel
  have hread : Tx.ofBytes settledProto.bytes = .ok settledTx := by cbv
  have hsettled : settledProto.Settled := settled_toProto (t := settledTx) (by simp [settledTx]) rfl
  exact ⟨hfits, hread, hsettled, (reencoded_same_iff hfits hread).2.1
    ((reencoded_same_iff hfits hread).1.2 ⟨settledProto, rfl, hsettled⟩)⟩

/-- The transaction with an option that nodes may ignore. -/
def hintedTx : Proto.FullTx :=
  ⟨{}, ⟨[⟨none, some (.single 1), 4⟩], some ⟨[⟨"uatom", "10"⟩], 200, "", ""⟩⟩, [[5]], [],
    [⟨"/x.Ext", []⟩], none⟩

theorem hintedTx_other_hash : Tx.ofBytes hintedTx.bytes = .ok settledTx ∧
    settledTx.toBytes ≠ .ok hintedTx.bytes ∧
    settledTx.hash ≠ .ok (Tx.hashBytes hintedTx.bytes) := by
  refine ⟨by cbv, ?_, ?_⟩
  · decide +kernel
  · decide +kernel

end CosmosClient.Proofs
