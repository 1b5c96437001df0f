import Mathlib
import CosmosClient.Proofs.FieldReading
import CosmosClient.Proto.Keys
import CosmosClient.Proto.Messages
import CosmosClient.Proto.Tx

/-!
# Reading messages back

Every message is read back from its bytes, at any depth that leaves room for the levels of messages
below it. `nesting` counts these levels. Only the modes of signers nest without a bound.
-/

namespace CosmosClient.Proto

/-- How many levels of messages lie below a message, given the levels below each message in it. -/
def below (levels : List Nat) : Nat :=
  levels.foldr (fun n rest => max (n + 1) rest) 0

namespace ModeInfo

mutual
/-- How many levels of messages lie below the mode. -/
def nesting : ModeInfo → Nat
  | .unset => 0
  | .single _ => below [0]
  | .multi bitarray modeInfos =>
    below [below (bitarray.toList.map (fun _ => 0) ++ nestings modeInfos)]

def nestings : List ModeInfo → List Nat
  | [] => []
  | m :: ms => nesting m :: nestings ms
end

end ModeInfo

def Fee.nesting (f : Fee) : Nat :=
  below (f.amount.map fun _ => 0)

def SignerInfo.nesting (s : SignerInfo) : Nat :=
  below (s.publicKey.toList.map (fun _ => 0) ++ s.modeInfo.toList.map ModeInfo.nesting)

def AuthInfo.nesting (a : AuthInfo) : Nat :=
  below (a.signerInfos.map SignerInfo.nesting ++ a.fee.toList.map Fee.nesting)

def TxBody.nesting (b : TxBody) : Nat :=
  below (b.messages.map fun _ => 0)

def Tx.nesting (t : Tx) : Nat :=
  below (t.body.toList.map TxBody.nesting ++ t.authInfo.toList.map AuthInfo.nesting)

end CosmosClient.Proto

namespace CosmosClient.Proofs
open Wire

lemma lt_of_below {levels : List Nat} {n depth : Nat} (h : Proto.below levels ≤ depth)
    (hn : n ∈ levels) : n < depth := by
  induction levels with
  | nil => simp at hn
  | cons m levels ih =>
    simp only [Proto.below, List.foldr_cons] at h ih
    rcases List.mem_cons.1 hn with rfl | hn
    · omega
    · exact ih (by omega) hn

/-- The room for what lies below a message leaves room one level further down. -/
lemma room_of_below {levels : List Nat} {n depth : Nat} (h : Proto.below levels ≤ depth)
    (hn : n ∈ levels) : 0 < depth ∧ n ≤ depth - 1 := by
  have hlt := lt_of_below h hn
  omega

lemma below_le_iff {levels : List Nat} {n : Nat} :
    Proto.below levels ≤ n ↔ ∀ l ∈ levels, l < n := by
  refine ⟨fun h l hl => lt_of_below h hl, ?_⟩
  intro h
  induction levels with
  | nil => exact Nat.zero_le _
  | cons l levels ih =>
    obtain ⟨hl, hlevels⟩ := List.forall_mem_cons.1 h
    exact max_le hl (ih hlevels)

lemma nestings_eq_map (ms : List Proto.ModeInfo) :
    Proto.ModeInfo.nestings ms = ms.map Proto.ModeInfo.nesting := by
  induction ms with
  | nil => rfl
  | cons m ms ih => rw [Proto.ModeInfo.nestings, ih, List.map_cons]

lemma reads_any (a : Proto.Any) (depth : Nat) (h : Fits a.bytes) :
    Reads Proto.Any.merge depth a.bytes {} a := by
  unfold Proto.Any.bytes Proto.Any.fields at h ⊢
  rw [encode_append] at h
  exact reads_encode ((puts_text a.typeUrl rfl (by decide) (fits_of_append_left h) rfl rfl).append
    (puts_bytes a.value rfl (by decide) (fits_of_append_right h) rfl rfl))

lemma reads_coin (c : Proto.Coin) (depth : Nat) (h : Fits c.bytes) :
    Reads Proto.Coin.merge depth c.bytes {} c := by
  unfold Proto.Coin.bytes Proto.Coin.fields at h ⊢
  rw [encode_append] at h
  exact reads_encode ((puts_text c.denom rfl (by decide) (fits_of_append_left h) rfl rfl).append
    (puts_text c.amount rfl (by decide) (fits_of_append_right h) rfl rfl))

lemma reads_pubKey (p : Proto.PubKey) (depth : Nat) (h : Fits p.bytes) :
    Reads Proto.PubKey.merge depth p.bytes {} p :=
  reads_encode (puts_bytes p.key rfl (by decide) h rfl rfl)

lemma reads_bitArray (b : Proto.BitArray) (depth : Nat) (h : Fits b.bytes) :
    Reads Proto.BitArray.merge depth b.bytes {} b := by
  unfold Proto.BitArray.bytes at h ⊢
  rw [encode_append] at h
  exact reads_encode ((puts_number (t := ⟨b.extraBitsStored, []⟩) _ rfl (by decide) rfl
      (congrArg (Proto.BitArray.mk · []) (UInt32.toUInt32_toUInt64 _))).append
    (puts_bytes b.elems rfl (by decide) (fits_of_append_right h) rfl rfl))

lemma reads_multiSignature (m : Proto.MultiSignature) (depth : Nat)
    (h : ∀ b ∈ m.signatures, Fits b) :
    Reads Proto.MultiSignature.merge depth m.bytes {} m :=
  reads_encode (puts_items Proto.MultiSignature.mk m.signatures rfl (by decide) h fun _ _ => rfl)

variable {σ : Type} {slots : List (Slot σ)} {depth k : Nat} {name : String}

lemma puts_coins {push : Proto.Coin → σ → σ} (fill : List Proto.Coin → σ) (cs : List Proto.Coin)
    (hslot : slots.find? (fun x => x.number == k) = some (Proto.coinsSlot k name push))
    (hk : 0 < k ∧ k < 2 ^ 29) (hfits : Fits (encode (Proto.coinFields k cs)))
    (hpush : ∀ ds c, push c (fill ds) = fill (ds ++ [c])) (hroom : cs ≠ [] → 0 < depth) :
    Puts slots depth (Proto.coinFields k cs) (fill []) (fill cs) :=
  puts_messages fill cs hslot hk hfits hpush fun c hc h =>
    ⟨hroom (List.ne_nil_of_mem hc), reads_coin c _ h⟩

lemma reads_legacyAminoPubKey (p : Proto.LegacyAminoPubKey) (hroom : 0 < depth)
    (h : Fits p.bytes) : Reads Proto.LegacyAminoPubKey.merge depth p.bytes {} p := by
  unfold Proto.LegacyAminoPubKey.bytes at h ⊢
  rw [encode_append] at h
  exact reads_encode ((puts_number _ rfl (by decide) rfl
      (congrArg (Proto.LegacyAminoPubKey.mk · []) (UInt32.toUInt32_toUInt64 _))).append
    (puts_messages (Proto.LegacyAminoPubKey.mk p.threshold) p.publicKeys rfl (by decide)
      (fits_of_append_right h) (fun _ _ => rfl) fun a _ ha => ⟨hroom, reads_any a _ ha⟩))

lemma reads_msgSend (m : Proto.MsgSend) (hroom : 0 < depth) (h : Fits m.bytes) :
    Reads Proto.MsgSend.merge depth m.bytes {} m := by
  unfold Proto.MsgSend.bytes at h ⊢
  rw [encode_append, encode_append] at h
  have htexts := fits_of_append_left h
  exact reads_encode (((puts_text m.fromAddress rfl (by decide) (fits_of_append_left htexts) rfl
      rfl).append
    (puts_text m.toAddress rfl (by decide) (fits_of_append_right htexts) rfl rfl)).append
    (puts_coins (Proto.MsgSend.mk m.fromAddress m.toAddress) m.amount rfl (by decide)
      (fits_of_append_right h) (fun _ _ => rfl) fun _ => hroom))

lemma reads_party (name : String) (p : Proto.Party) (hroom : 0 < depth) (h : Fits p.bytes) :
    Reads (Proto.Party.merge name) depth p.bytes {} p := by
  unfold Proto.Party.bytes at h ⊢
  rw [encode_append] at h
  exact reads_encode ((puts_text p.address rfl (by decide) (fits_of_append_left h) rfl rfl).append
    (puts_coins (Proto.Party.mk p.address) p.coins rfl (by decide) (fits_of_append_right h)
      (fun _ _ => rfl) fun _ => hroom))

lemma reads_msgMultiSend (m : Proto.MsgMultiSend) (hroom : 1 < depth) (h : Fits m.bytes) :
    Reads Proto.MsgMultiSend.merge depth m.bytes {} m := by
  unfold Proto.MsgMultiSend.bytes at h ⊢
  rw [encode_append] at h
  exact reads_encode ((puts_messages (Proto.MsgMultiSend.mk · []) m.inputs rfl (by decide)
      (fits_of_append_left h) (fun _ _ => rfl)
      fun p _ hp => ⟨by omega, reads_party "Input" p (by omega) hp⟩).append
    (puts_messages (Proto.MsgMultiSend.mk m.inputs) m.outputs rfl (by decide)
      (fits_of_append_right h) (fun _ _ => rfl)
      fun p _ hp => ⟨by omega, reads_party "Output" p (by omega) hp⟩))

lemma reads_msgDelegate (name : String) (m : Proto.MsgDelegate) (hroom : 0 < depth)
    (h : Fits m.bytes) : Reads (Proto.MsgDelegate.merge name) depth m.bytes {} m := by
  unfold Proto.MsgDelegate.bytes at h ⊢
  rw [encode_append, encode_append] at h
  have htexts := fits_of_append_left h
  exact reads_encode (((puts_text m.delegatorAddress rfl (by decide) (fits_of_append_left htexts)
      rfl rfl).append
    (puts_text m.validatorAddress rfl (by decide) (fits_of_append_right htexts) rfl rfl)).append
    (puts_option (Proto.MsgDelegate.mk m.delegatorAddress m.validatorAddress) m.amount rfl
      (by decide) (fits_of_append_right h) rfl (fun _ => rfl)
      fun c _ hc => ⟨hroom, reads_coin c _ hc⟩))

lemma reads_msgBeginRedelegate (m : Proto.MsgBeginRedelegate) (hroom : 0 < depth)
    (h : Fits m.bytes) : Reads Proto.MsgBeginRedelegate.merge depth m.bytes {} m := by
  unfold Proto.MsgBeginRedelegate.bytes at h ⊢
  rw [encode_append, encode_append, encode_append] at h
  have htexts := fits_of_append_left h
  have hpair := fits_of_append_left htexts
  exact reads_encode ((((puts_text m.delegatorAddress rfl (by decide) (fits_of_append_left hpair)
      rfl rfl).append
    (puts_text m.sourceAddress rfl (by decide) (fits_of_append_right hpair) rfl rfl)).append
    (puts_text m.destinationAddress rfl (by decide) (fits_of_append_right htexts) rfl rfl)).append
    (puts_option (Proto.MsgBeginRedelegate.mk m.delegatorAddress m.sourceAddress
      m.destinationAddress) m.amount rfl (by decide) (fits_of_append_right h) rfl (fun _ => rfl)
      fun c _ hc => ⟨hroom, reads_coin c _ hc⟩))

lemma reads_msgWithdrawDelegatorReward (m : Proto.MsgWithdrawDelegatorReward) (h : Fits m.bytes) :
    Reads Proto.MsgWithdrawDelegatorReward.merge depth m.bytes {} m := by
  unfold Proto.MsgWithdrawDelegatorReward.bytes at h ⊢
  rw [encode_append] at h
  exact reads_encode ((puts_text m.delegatorAddress rfl (by decide) (fits_of_append_left h) rfl
      rfl).append
    (puts_text m.validatorAddress rfl (by decide) (fits_of_append_right h) rfl rfl))

lemma toInt32_toUInt64 (mode : Int32) : mode.toInt64.toUInt64.toUInt32.toInt32 = mode := by
  apply Int32.toBitVec_inj.mp
  apply BitVec.eq_of_getElem_eq
  intro i hi
  have h64 : i < 64 := by omega
  simp [BitVec.getElem_signExtend, hi, h64]

lemma reads_singleBytes (mode : Int32) :
    Reads (Wire.merge "Single" Proto.ModeInfo.singleSlots) depth (Proto.ModeInfo.singleBytes mode)
      0 mode :=
  reads_encode (puts_number _ rfl (by decide) rfl (toInt32_toUInt64 mode))

/-- The mode of one key does not depend on how the modes of members are read. -/
lemma reads_single (inner : Nat → Bytes → Except Wire.Error (Proto.ModeInfo × Bytes))
    (mode : Int32) (h : Fits (Proto.ModeInfo.bytes (.single mode))) :
    Reads (Wire.merge "ModeInfo" (Proto.ModeInfo.slots inner)) (depth + 1)
      (Proto.ModeInfo.bytes (.single mode)) .unset (.single mode) := by
  apply reads_encode
  apply puts_message rfl (by decide) (fits_of_item h)
  intro rest
  simp only [reads_singleBytes mode rest, Except.map]

lemma reads_multi {inner : Nat → Bytes → Except Wire.Error (Proto.ModeInfo × Bytes)}
    {bits : Option Proto.BitArray} {ms : List Proto.ModeInfo}
    (h : Fits (Proto.ModeInfo.bytes (.multi bits ms)))
    (hbits : bits ≠ none → 0 < depth)
    (hms : Fits (encode (items 2 (Proto.ModeInfo.bytesOf ms))) →
      Puts (Proto.ModeInfo.multiSlots inner) depth (items 2 (Proto.ModeInfo.bytesOf ms))
        (bits, []) (bits, ms)) :
    Reads (Wire.merge "ModeInfo" (Proto.ModeInfo.slots inner)) (depth + 1)
      (Proto.ModeInfo.bytes (.multi bits ms)) .unset (.multi bits ms) := by
  have hb := fits_of_item h
  apply reads_encode
  apply puts_message rfl (by decide) hb
  intro rest
  rw [encode_append] at hb
  have hput : Puts (Proto.ModeInfo.multiSlots inner) depth
      (items 1 (bits.toList.map Proto.BitArray.bytes)) (none, []) (bits, []) :=
    puts_option (fun o => (o, [])) bits rfl (by decide) (fits_of_append_left hb) rfl
      (fun _ => rfl) fun b hmem hfits =>
        ⟨hbits (by rintro rfl; simp at hmem), reads_bitArray b _ hfits⟩
  have hread : Reads (Wire.merge "Multi" (Proto.ModeInfo.multiSlots inner)) depth _ (none, [])
      (bits, ms) := reads_encode (hput.append (hms (fits_of_append_right hb)))
  simp only [hread rest, Except.map]

mutual
lemma reads_modeInfo (m : Proto.ModeInfo) (depth : Nat) (hroom : m.nesting ≤ depth)
    (h : Fits m.bytes) : Reads Proto.ModeInfo.merge depth m.bytes .unset m := by
  match m with
  | .unset =>
    match depth with
    | 0 | 1 | depth + 2 => exact reads_encode (.nil _)
  | .single mode =>
    have hpos := (room_of_below hroom (List.mem_singleton.2 rfl)).1
    match depth with
    | 1 | depth + 2 => exact reads_single _ mode h
  | .multi bits ms =>
    obtain ⟨hpos, hlevels⟩ := room_of_below hroom (List.mem_singleton.2 rfl)
    have hbits : bits ≠ none → 0 < depth - 1 := by
      intro hb
      obtain ⟨b, rfl⟩ := Option.ne_none_iff_exists'.1 hb
      exact (room_of_below (n := 0) hlevels (by simp)).1
    have hmembers : ∀ n ∈ Proto.ModeInfo.nestings ms, 0 < depth - 1 ∧ n ≤ depth - 1 - 1 :=
      fun n hn => room_of_below hlevels (List.mem_append_right _ hn)
    match depth with
    | 1 =>
      -- one level holds the list of members, but no member
      match ms with
      | [] => exact reads_multi h hbits fun _ => .nil _
      | m :: ms => exact absurd (hmembers m.nesting (by simp [Proto.ModeInfo.nestings])).1 (by simp)
    | depth + 2 =>
      exact reads_multi h hbits fun hfits =>
        puts_members ms depth (fun n hn => (hmembers n hn).2) hfits bits []

/-- Members lie two levels below the mode that holds them. -/
lemma puts_members (ms : List Proto.ModeInfo) (depth : Nat)
    (hroom : ∀ n ∈ Proto.ModeInfo.nestings ms, n ≤ depth)
    (h : Fits (encode (items 2 (Proto.ModeInfo.bytesOf ms)))) (bits : Option Proto.BitArray)
    (front : List Proto.ModeInfo) :
    Puts (Proto.ModeInfo.multiSlots fun behind bs => Proto.ModeInfo.merge depth behind bs .unset)
      (depth + 1) (items 2 (Proto.ModeInfo.bytesOf ms)) (bits, front) (bits, front ++ ms) := by
  match ms with
  | [] =>
    rw [List.append_nil]
    exact .nil _
  | m :: ms =>
    simp only [Proto.ModeInfo.bytesOf, items, List.map_cons] at h ⊢
    rw [encode_cons] at h
    simp only [Proto.ModeInfo.nestings, List.mem_cons, forall_eq_or_imp] at hroom
    have hm : Fits m.bytes := fits_of_field (fits_of_append_left h)
    have hread := reads_modeInfo m depth hroom.1 hm
    have hrest := puts_members ms depth hroom.2 (fits_of_append_right h) bits (front ++ [m])
    rw [List.append_assoc, List.singleton_append] at hrest
    refine Puts.append (puts_message rfl (by decide) hm fun rest => ?_) hrest
    simp only [hread rest, Except.map]
end

lemma reads_signerInfo (s : Proto.SignerInfo) (hroom : s.nesting ≤ depth) (h : Fits s.bytes) :
    Reads Proto.SignerInfo.merge depth s.bytes {} s := by
  unfold Proto.SignerInfo.bytes at h ⊢
  rw [encode_append, encode_append] at h
  have hparts := fits_of_append_left h
  have hkey : ∀ a ∈ s.publicKey, 0 < depth := fun a ha =>
    (room_of_below (n := 0) hroom (by simp [Option.mem_def.1 ha])).1
  have hmode : ∀ m ∈ s.modeInfo, 0 < depth ∧ m.nesting ≤ depth - 1 := fun m hm =>
    room_of_below hroom (by simp [Option.mem_def.1 hm])
  exact reads_encode (((puts_option (Proto.SignerInfo.mk · none 0) s.publicKey rfl (by decide)
      (fits_of_append_left hparts) rfl (fun _ => rfl)
      fun a ha hfits => ⟨hkey a ha, reads_any a _ hfits⟩).append
    (puts_option (Proto.SignerInfo.mk s.publicKey · 0) s.modeInfo rfl (by decide)
      (fits_of_append_right hparts) rfl (fun _ => rfl)
      fun m hm hfits => ⟨(hmode m hm).1, reads_modeInfo m _ (hmode m hm).2 hfits⟩)).append
    (puts_number s.sequence rfl (by decide) rfl rfl))

lemma reads_fee (f : Proto.Fee) (hroom : f.nesting ≤ depth) (h : Fits f.bytes) :
    Reads Proto.Fee.merge depth f.bytes {} f := by
  unfold Proto.Fee.bytes at h ⊢
  rw [encode_append, encode_append, encode_append] at h
  have hparts := fits_of_append_left h
  have hfirst := fits_of_append_left (fits_of_append_left hparts)
  have hcoins : f.amount ≠ [] → 0 < depth := fun hne =>
    (room_of_below (n := 0) hroom (by simpa using hne)).1
  exact reads_encode ((((puts_coins (Proto.Fee.mk · 0 "" "") f.amount rfl (by decide) hfirst
      (fun _ _ => rfl) hcoins).append
    (puts_number f.gasLimit rfl (by decide) rfl rfl)).append
    (puts_text f.payer rfl (by decide) (fits_of_append_right hparts) rfl rfl)).append
    (puts_text f.granter rfl (by decide) (fits_of_append_right h) rfl rfl))

lemma reads_authInfo (a : Proto.AuthInfo) (hroom : a.nesting ≤ depth) (h : Fits a.bytes) :
    Reads Proto.AuthInfo.merge depth a.bytes {} a := by
  unfold Proto.AuthInfo.bytes at h ⊢
  rw [encode_append] at h
  have hsigner : ∀ s ∈ a.signerInfos, 0 < depth ∧ s.nesting ≤ depth - 1 := fun s hs =>
    room_of_below hroom (List.mem_append_left _ (List.mem_map_of_mem hs))
  have hfee : ∀ f ∈ a.fee, 0 < depth ∧ f.nesting ≤ depth - 1 := fun f hf =>
    room_of_below hroom (by simp [Option.mem_def.1 hf])
  exact reads_encode ((puts_messages (Proto.AuthInfo.mk · none) a.signerInfos rfl (by decide)
      (fits_of_append_left h) (fun _ _ => rfl)
      fun s hs hfits => ⟨(hsigner s hs).1, reads_signerInfo s (hsigner s hs).2 hfits⟩).append
    (puts_option (Proto.AuthInfo.mk a.signerInfos) a.fee rfl (by decide) (fits_of_append_right h)
      rfl (fun _ => rfl) fun f hf hfits => ⟨(hfee f hf).1, reads_fee f (hfee f hf).2 hfits⟩))

lemma reads_txBody (b : Proto.TxBody) (hroom : b.nesting ≤ depth) (h : Fits b.bytes) :
    Reads Proto.TxBody.merge depth b.bytes {} b := by
  unfold Proto.TxBody.bytes at h ⊢
  rw [encode_append, encode_append] at h
  have hparts := fits_of_append_left h
  have hmessage : ∀ a ∈ b.messages, 0 < depth := fun a ha =>
    (room_of_below (n := 0) hroom (List.mem_map.2 ⟨a, ha, rfl⟩)).1
  exact reads_encode (((puts_messages (Proto.TxBody.mk · "" 0) b.messages rfl (by decide)
      (fits_of_append_left hparts) (fun _ _ => rfl)
      fun a ha hfits => ⟨hmessage a ha, reads_any a _ hfits⟩).append
    (puts_text b.memo rfl (by decide) (fits_of_append_right hparts) rfl rfl)).append
    (puts_number b.timeoutHeight rfl (by decide) rfl rfl))

/-- A transaction whose messages nest no deeper than there is room is read back from its bytes. -/
lemma reads_tx (t : Proto.Tx) (hroom : t.nesting ≤ depth) (h : Fits t.bytes) :
    Reads Proto.Tx.merge depth t.bytes {} t := by
  unfold Proto.Tx.bytes at h ⊢
  rw [encode_append, encode_append] at h
  have hparts := fits_of_append_left h
  have hbody : ∀ b ∈ t.body, 0 < depth ∧ b.nesting ≤ depth - 1 := fun b hb =>
    room_of_below hroom (by simp [Option.mem_def.1 hb])
  have hauth : ∀ a ∈ t.authInfo, 0 < depth ∧ a.nesting ≤ depth - 1 := fun a ha =>
    room_of_below hroom (by simp [Option.mem_def.1 ha])
  exact reads_encode (((puts_option (Proto.Tx.mk · none []) t.body rfl (by decide)
      (fits_of_append_left hparts) rfl (fun _ => rfl)
      fun b hb hfits => ⟨(hbody b hb).1, reads_txBody b (hbody b hb).2 hfits⟩).append
    (puts_option (Proto.Tx.mk t.body · []) t.authInfo rfl (by decide)
      (fits_of_append_right hparts) rfl (fun _ => rfl)
      fun a ha hfits => ⟨(hauth a ha).1, reads_authInfo a (hauth a ha).2 hfits⟩)).append
    (puts_items (Proto.Tx.mk t.body t.authInfo) t.signatures rfl (by decide)
      (fits_of_items (fits_of_append_right h)) fun _ _ => rfl))

/-- A message that stands for itself is decoded from its bytes. -/
lemma decode_bytes {m : Merge σ} {start s : σ} {b : Bytes}
    (h : Reads m maxNesting b start s) : Proto.decode m start b = .ok s := by
  have hb := h []
  rw [List.length_nil, List.append_nil] at hb
  rw [Proto.decode, hb]
  rfl

end CosmosClient.Proofs
