import Mathlib
import CosmosClient.Proofs.FieldWriting
import CosmosClient.Proofs.MessageReading

/-!
# Messages told apart

No two messages of a type have the same bytes, however large they are and however deep they nest.
-/

namespace CosmosClient.Proofs
open Wire

lemma any_bytes_injective : Function.Injective Proto.Any.bytes := by
  intro a b h
  have hurl := text_injective 1 (by simpa [Proto.Any.fields] using numbered_eq h 1)
  have hvalue := bytes_injective 2 (by simpa [Proto.Any.fields] using numbered_eq h 2)
  cases a
  cases b
  simp_all

lemma coin_bytes_injective : Function.Injective Proto.Coin.bytes := by
  intro c d h
  have hdenom := text_injective 1 (by simpa [Proto.Coin.fields] using numbered_eq h 1)
  have hamount := text_injective 2 (by simpa [Proto.Coin.fields] using numbered_eq h 2)
  cases c
  cases d
  simp_all

@[simp]
lemma numbered_coinFields (k l : Nat) (cs : List Proto.Coin) :
    numbered k (Proto.coinFields l cs) = if l = k then Proto.coinFields l cs else [] :=
  numbered_items k l _

lemma coinFields_injective (k : Nat) : Function.Injective (Proto.coinFields k) :=
  items_map_injective k coin_bytes_injective

lemma pubKey_bytes_injective : Function.Injective Proto.PubKey.bytes := by
  intro p q h
  have hkey := bytes_injective 1 (by simpa using numbered_eq h 1)
  cases p
  cases q
  simp_all

lemma legacyAminoPubKey_bytes_injective : Function.Injective Proto.LegacyAminoPubKey.bytes := by
  intro p q h
  have hthreshold := UInt32.toUInt64_inj.1
    (number_injective 1 (by simpa using numbered_eq h 1))
  have hkeys := items_map_injective 2 any_bytes_injective (by simpa using numbered_eq h 2)
  cases p
  cases q
  simp_all

lemma msgSend_bytes_injective : Function.Injective Proto.MsgSend.bytes := by
  intro m n h
  have hsource := text_injective 1 (by simpa using numbered_eq h 1)
  have htarget := text_injective 2 (by simpa using numbered_eq h 2)
  have hamount := coinFields_injective 3 (by simpa using numbered_eq h 3)
  cases m
  cases n
  simp_all

lemma party_bytes_injective : Function.Injective Proto.Party.bytes := by
  intro p q h
  have haddress := text_injective 1 (by simpa using numbered_eq h 1)
  have hcoins := coinFields_injective 2 (by simpa using numbered_eq h 2)
  cases p
  cases q
  simp_all

lemma msgMultiSend_bytes_injective : Function.Injective Proto.MsgMultiSend.bytes := by
  intro m n h
  have hinputs := items_map_injective 1 party_bytes_injective (by simpa using numbered_eq h 1)
  have houtputs := items_map_injective 2 party_bytes_injective (by simpa using numbered_eq h 2)
  cases m
  cases n
  simp_all

lemma msgDelegate_bytes_injective : Function.Injective Proto.MsgDelegate.bytes := by
  intro m n h
  have hdelegator := text_injective 1 (by simpa using numbered_eq h 1)
  have hvalidator := text_injective 2 (by simpa using numbered_eq h 2)
  have hamount := items_option_injective 3 coin_bytes_injective (by simpa using numbered_eq h 3)
  cases m
  cases n
  simp_all

lemma msgBeginRedelegate_bytes_injective : Function.Injective Proto.MsgBeginRedelegate.bytes := by
  intro m n h
  have hdelegator := text_injective 1 (by simpa using numbered_eq h 1)
  have hsource := text_injective 2 (by simpa using numbered_eq h 2)
  have htarget := text_injective 3 (by simpa using numbered_eq h 3)
  have hamount := items_option_injective 4 coin_bytes_injective (by simpa using numbered_eq h 4)
  cases m
  cases n
  simp_all

lemma msgWithdrawDelegatorReward_bytes_injective :
    Function.Injective Proto.MsgWithdrawDelegatorReward.bytes := by
  intro m n h
  have hdelegator := text_injective 1 (by simpa using numbered_eq h 1)
  have hvalidator := text_injective 2 (by simpa using numbered_eq h 2)
  cases m
  cases n
  simp_all

lemma bitArray_bytes_injective : Function.Injective Proto.BitArray.bytes := by
  intro b c h
  have hextra := UInt32.toUInt64_inj.1 (number_injective 1 (by simpa using numbered_eq h 1))
  have helems := bytes_injective 2 (by simpa using numbered_eq h 2)
  cases b
  cases c
  simp_all

lemma singleBytes_injective : Function.Injective Proto.ModeInfo.singleBytes := by
  intro m n h
  have hnumber := number_injective 1 (encode_injective h)
  rw [← toInt32_toUInt64 m, hnumber, toInt32_toUInt64]

lemma item_injective (k : Nat) : Function.Injective (item k) := by
  intro b c h
  simpa [item] using h

mutual
/-- The induction is on one of the modes; its members are compared with those of the other. -/
lemma modeBytes_inj (m n : Proto.ModeInfo) (h : m.bytes = n.bytes) : m = n := by
  match m, n with
  | .unset, .unset => rfl
  | .unset, .single _ | .unset, .multi _ _ | .single _, .unset | .multi _ _, .unset =>
    simp [Proto.ModeInfo.bytes, encode_cons, fieldBytes_ne_nil] at h
  | .single _, .multi _ _ | .multi _ _, .single _ =>
    have hfields := encode_injective h
    simp [item] at hfields
  | .single a, .single b =>
    have hfields := encode_injective h
    rw [singleBytes_injective (item_injective 1 (List.cons.inj hfields).1)]
  | .multi bits ms, .multi bits' ns =>
    have hfields := encode_injective h
    have hcontent := item_injective 2 (List.cons.inj hfields).1
    have hbits := items_option_injective 1 bitArray_bytes_injective
      (by simpa using numbered_eq hcontent 1)
    have hmembers := items_injective 2 (by simpa using numbered_eq hcontent 2)
    rw [hbits, modesBytes_inj ms ns hmembers]

lemma modesBytes_inj (ms ns : List Proto.ModeInfo)
    (h : Proto.ModeInfo.bytesOf ms = Proto.ModeInfo.bytesOf ns) : ms = ns := by
  match ms, ns with
  | [], [] => rfl
  | [], _ :: _ | _ :: _, [] => simp [Proto.ModeInfo.bytesOf] at h
  | m :: ms, n :: ns =>
    rw [Proto.ModeInfo.bytesOf, Proto.ModeInfo.bytesOf] at h
    obtain ⟨hm, hms⟩ := List.cons.inj h
    rw [modeBytes_inj m n hm, modesBytes_inj ms ns hms]
end

lemma signerInfo_bytes_injective : Function.Injective Proto.SignerInfo.bytes := by
  intro s t h
  have hkey := items_option_injective 1 any_bytes_injective (by simpa using numbered_eq h 1)
  have hmode := items_option_injective 2 modeBytes_inj (by simpa using numbered_eq h 2)
  have hsequence := number_injective 3 (by simpa using numbered_eq h 3)
  cases s
  cases t
  simp_all

lemma fee_bytes_injective : Function.Injective Proto.Fee.bytes := by
  intro f g h
  have hamount := coinFields_injective 1 (by simpa using numbered_eq h 1)
  have hgas := number_injective 2 (by simpa using numbered_eq h 2)
  have hpayer := text_injective 3 (by simpa using numbered_eq h 3)
  have hgranter := text_injective 4 (by simpa using numbered_eq h 4)
  cases f
  cases g
  simp_all

lemma authInfo_bytes_injective : Function.Injective Proto.AuthInfo.bytes := by
  intro a b h
  have hsigners := items_map_injective 1 signerInfo_bytes_injective
    (by simpa using numbered_eq h 1)
  have hfee := items_option_injective 2 fee_bytes_injective (by simpa using numbered_eq h 2)
  cases a
  cases b
  simp_all

lemma txBody_bytes_injective : Function.Injective Proto.TxBody.bytes := by
  intro b c h
  have hmessages := items_map_injective 1 any_bytes_injective (by simpa using numbered_eq h 1)
  have hmemo := text_injective 2 (by simpa using numbered_eq h 2)
  have htimeout := number_injective 3 (by simpa using numbered_eq h 3)
  cases b
  cases c
  simp_all

lemma signDoc_bytes_injective : Function.Injective Proto.SignDoc.bytes := by
  intro d e h
  have hbody := bytes_injective 1 (by simpa using numbered_eq h 1)
  have hauth := bytes_injective 2 (by simpa using numbered_eq h 2)
  have hchain := text_injective 3 (by simpa using numbered_eq h 3)
  have haccount := number_injective 4 (by simpa using numbered_eq h 4)
  cases d
  cases e
  simp_all

end CosmosClient.Proofs
