import Mathlib
import CosmosClient.Proofs.LegacyDocuments
import CosmosClient.Proofs.TxWriting

/-!
# What is signed is bound

The bytes that are signed determine what they are signed for, in direct signing and in legacy signing,
and nothing is signed alike in both: a direct document starts with the key of one of four fields, a
legacy document with a brace.
-/

namespace CosmosClient.Proofs
open Wire LegacySignDoc

lemma ofTx_of_canonical {t : Tx} (ht : ∀ m ∈ t.body.messages, m.Canonical) (chainId : String)
    (accountNumber : UInt64) :
    ∃ p, t.body.toProto = .ok p ∧ SignDoc.ofTx t chainId accountNumber =
      .ok ⟨p.bytes, t.authInfo.toProto.bytes, chainId, accountNumber⟩ := by
  obtain ⟨p, hp, -⟩ := bodyOfProto_toProto ht
  exact ⟨p, hp, by rw [SignDoc.ofTx, hp, map_ok]⟩

/-- The bytes of a document determine what was put into it. -/
lemma directBytes_injective : Function.Injective SignDoc.bytes := by
  intro d e h
  obtain ⟨hbody, hauth, hchain, haccount⟩ := Proto.SignDoc.mk.inj (signDoc_bytes_injective h)
  cases d
  cases e
  simp_all

lemma direct_binds {t u : Tx} {chainId chainId' : String} {accountNumber accountNumber' : UInt64}
    (ht : ∀ m ∈ t.body.messages, m.Canonical) (hu : ∀ m ∈ u.body.messages, m.Canonical) :
    ∃ d e, SignDoc.ofTx t chainId accountNumber = .ok d ∧
      SignDoc.ofTx u chainId' accountNumber' = .ok e ∧
      (d.bytes = e.bytes → t.body = u.body ∧ t.authInfo = u.authInfo ∧ chainId = chainId' ∧
        accountNumber = accountNumber') := by
  obtain ⟨p, hp, hd⟩ := ofTx_of_canonical ht chainId accountNumber
  obtain ⟨q, hq, he⟩ := ofTx_of_canonical hu chainId' accountNumber'
  refine ⟨_, _, hd, he, fun h => ?_⟩
  obtain ⟨hbody, hauth, hchain, haccount⟩ := SignDoc.mk.inj (directBytes_injective h)
  obtain rfl := txBody_bytes_injective hbody
  exact ⟨body_toProto_inj ht hu hp hq, auth_toProto_injective (authInfo_bytes_injective hauth),
    hchain, haccount⟩

/-- A message whose fields have small numbers does not start with a brace. -/
lemma encode_ne_brace {fs : List Field} (h : ∀ f ∈ fs, f.number ≤ 4) (rest : Bytes) :
    encode fs ≠ 0x7B :: rest := by
  cases fs with
  | nil => simp [encode]
  | cons f fs =>
    have hnumber := h f (by simp)
    have hcode := kind_code_lt f.payload.kind
    intro hbytes
    rw [encode_cons, Field.bytes, varintBytes, if_pos (by omega)] at hbytes
    have hbyte := congrArg UInt8.toNat (List.cons.inj hbytes).1
    rw [byte_toNat (by omega)] at hbyte
    have hbrace : (0x7B : UInt8).toNat = 123 := rfl
    omega

lemma number_of_mem_bytes {k : Nat} {b : Bytes} {f : Field} (h : f ∈ Wire.bytes k b) :
    f.number = k := by
  unfold Wire.bytes at h
  split at h <;> simp_all [item]

lemma number_of_mem_number {k : Nat} {n : UInt64} {f : Field} (h : f ∈ Wire.number k n) :
    f.number = k := by
  unfold Wire.number at h
  split at h <;> simp_all

lemma directBytes_ne_brace (d : SignDoc) (rest : Bytes) : d.bytes ≠ 0x7B :: rest := by
  refine encode_ne_brace (fun f hf => ?_) rest
  simp only [List.mem_append, or_assoc] at hf
  rcases hf with hf | hf | hf | hf
  · exact (number_of_mem_bytes hf).trans_le (by decide)
  · exact (number_of_mem_bytes hf).trans_le (by decide)
  · exact (number_of_mem_bytes hf).trans_le (by decide)
  · exact (number_of_mem_number hf).trans_le (by decide)

lemma encode_brace (cs : List Char) :
    ∃ rest, Utf8.encode (String.ofList ('{' :: cs)) = 0x7B :: rest := by
  have hbytes : (String.ofList ('{' :: cs)).toByteArray = ['{'].utf8Encode ++ cs.utf8Encode := by
    rw [String.toByteArray_ofList, List.utf8Encode_cons]
  refine ⟨cs.utf8Encode.data.toList, ?_⟩
  rw [Utf8.encode, hbytes, ByteArray.data_append, Array.toList_append]
  rfl

lemma legacyBytes_brace {d : LegacySignDoc} {b : Bytes} (h : d.bytes = .ok b) :
    ∃ rest, b = 0x7B :: rest := by
  obtain ⟨j, hj, rfl⟩ := legacyBytes_eq_ok h
  obtain ⟨messages, -, hnormal⟩ := document_normal d hj
  rw [hnormal, spell_obj, List.cons_append]
  exact encode_brace _

/-- The bytes of direct signing determine the body, the signers with the fee, the chain and the
account number, and those of legacy signing the document. No bytes are signed in both. -/
theorem sign_bytes_bind :
    (∀ (t u : Tx) (chainId chainId' : String) (accountNumber accountNumber' : UInt64),
      (∀ m ∈ t.body.messages, m.Canonical) → (∀ m ∈ u.body.messages, m.Canonical) →
        ∃ d e, SignDoc.ofTx t chainId accountNumber = .ok d ∧
          SignDoc.ofTx u chainId' accountNumber' = .ok e ∧
          (d.bytes = e.bytes → t.body = u.body ∧ t.authInfo = u.authInfo ∧ chainId = chainId' ∧
            accountNumber = accountNumber')) ∧
    (∀ (d e : LegacySignDoc) (b : Bytes), d.bytes = .ok b → e.bytes = .ok b → d = e) ∧
    ∀ (d : SignDoc) (e : LegacySignDoc), e.bytes ≠ .ok d.bytes := by
  refine ⟨fun t u _ _ _ _ ht hu => direct_binds ht hu, fun d e b => legacyBytes_inj, ?_⟩
  intro d e h
  obtain ⟨rest, hbrace⟩ := legacyBytes_brace h
  exact directBytes_ne_brace d rest hbrace

/-- A transaction that can be signed in both ways. -/
def paidTx : Tx :=
  .unsigned (.ofMessages [.send "alice" "bob" (.ofList [⟨"atom", .clamp 7⟩])]) (.ofGas 200 .empty)

theorem paidTx_bound :
    ∃ d e b c, SignDoc.ofTx paidTx "hub" 1 = .ok d ∧ SignDoc.ofTx paidTx "hub" 2 = .ok e ∧
      d.bytes ≠ e.bytes ∧ (LegacySignDoc.ofTx paidTx "hub" 1 7).bytes = .ok b ∧
      (LegacySignDoc.ofTx paidTx "hub" 1 8).bytes = .ok c ∧ b ≠ c ∧ d.bytes ≠ b := by
  obtain ⟨hdirect, hlegacy, hmodes⟩ := sign_bytes_bind
  have hmessages : ∀ m ∈ paidTx.body.messages, m.Canonical := by decide
  obtain ⟨d, e, hd, he, hbound⟩ := hdirect paidTx paidTx "hub" "hub" 1 2 hmessages hmessages
  refine ⟨d, e, _, _, hd, he, ?_, rfl, rfl, ?_, ?_⟩
  · intro h
    exact absurd (hbound h).2.2.2 (by decide)
  · intro h
    have hsame := hlegacy (LegacySignDoc.ofTx paidTx "hub" 1 7) (LegacySignDoc.ofTx paidTx "hub" 1 8)
      _ rfl (by rw [h]; rfl)
    exact absurd (congrArg LegacySignDoc.sequence hsame) (by decide)
  · intro h
    exact hmodes d (LegacySignDoc.ofTx paidTx "hub" 1 7) (by rw [h]; rfl)

end CosmosClient.Proofs
