import Mathlib
import CosmosClient.Key
import CosmosClient.Proofs.Results

/-!
# Signing transactions

Whether a transaction can be signed depends on its body and on the mode alone. A transaction that was
signed has the signer of the key in one place, and in the same place the signature of the document that
the signed transaction itself stands for; all else is as it was. So a transaction that grows by empty
signatures and by signing keeps one signature for each signer.
-/

namespace CosmosClient

/-- Whether bytes are the document of a transaction, of the kind that the mode asks for. -/
def SignOptions.Documents (options : SignOptions) (t : Tx) (b : Bytes) : Prop :=
  (options.mode = .direct ∧
    ∃ d, SignDoc.ofTx t options.chainId options.accountNumber = .ok d ∧ d.bytes = b) ∨
  (options.mode = .legacyAminoJson ∧
    (LegacySignDoc.ofTx t options.chainId options.accountNumber options.sequence).bytes = .ok b)

/-- `u` is `t` signed by a key in the place `p`. -/
structure Key.SignedAt (k : Key) (options : SignOptions) (t u : Tx) (p : Nat) : Prop where
  signer : u.authInfo.signers[p]? = some ⟨some k.publicKey, .single options.mode, options.sequence⟩
  signature : ∃ b, options.Documents u b ∧ u.signatures[p]? = some (k.signBytes b)
  body : u.body = t.body
  fee : u.authInfo.fee = t.authInfo.fee
  otherSigners : ∀ q ≠ p, u.authInfo.signers[q]? = t.authInfo.signers[q]?
  otherSignatures : ∀ q ≠ p, q < t.signatures.length → u.signatures[q]? = t.signatures[q]?
  newSignatures : ∀ q ≠ p, t.signatures.length ≤ q → q < u.signatures.length →
    u.signatures[q]? = some []
  length : u.signatures.length = max t.signatures.length u.authInfo.signers.length

/-- The transactions that come from one without signers by empty signatures and by signing. -/
inductive Tx.Prepared : Tx → Prop where
  | unsigned (body : TxBody) (fee : Fee) : Prepared (.unsigned body fee)
  | append {t : Tx} (signers : List SignerData) (ht : Prepared t) :
      Prepared (t.appendEmptySignatures signers)
  | sign {t u : Tx} (k : Key) (options : SignOptions) (ht : Prepared t)
      (hu : k.signTx t options = (u, .ok ())) : Prepared u

end CosmosClient

namespace CosmosClient.Proofs

/-- Whether the body of a transaction can be signed in a mode. -/
def signable (body : TxBody) : SignMode → Bool
  | .direct => body.toProto.isOk
  | .legacyAminoJson => (body.messages.mapM Message.toAminoJson).isOk
  | _ => false

lemma documentBytes_isOk (t : Tx) (options : SignOptions) :
    (Key.documentBytes t options).isOk = signable t.body options.mode := by
  unfold Key.documentBytes
  cases options.mode with
  | direct => rw [isOk_mapError, isOk_map, SignDoc.ofTx, isOk_map]; rfl
  | legacyAminoJson =>
    rw [Key.legacyBytes, inContext, isOk_mapError, isOk_mapError, LegacySignDoc.bytes, isOk_map,
      LegacySignDoc.chars, isOk_map, LegacySignDoc.toJson, isOk_map]
    rfl
  | unspecified => rfl
  | textual => rfl
  | directAux => rfl

/-- Whether a transaction can be encoded depends on its body alone. -/
lemma toBase64_isOk (t : Tx) : t.toBase64.isOk = t.body.toProto.isOk := by
  rw [Tx.toBase64, isOk_map, Tx.toBytes, isOk_map, Tx.toProto, isOk_map]

lemma signTx_body (key : Key) (t : Tx) (options : SignOptions) :
    (key.signTx t options).1.body = t.body := by
  unfold Key.signTx
  split
  · have hbody : (key.enlist t options).1.body = t.body := rfl
    cases hdocument : Key.documentBytes (key.enlist t options).1 options <;>
      simp only [hdocument, hbody]
  · rfl

lemma signTx_isOk (key : Key) (t : Tx) (options : SignOptions) :
    (key.signTx t options).2.isOk = signable t.body options.mode := by
  have hdocument := documentBytes_isOk (key.enlist t options).1 options
  have hbody : (key.enlist t options).1.body = t.body := rfl
  rw [hbody] at hdocument
  rw [← hdocument]
  unfold Key.signTx
  by_cases hmode : Key.supports options.mode
  · simp only [hmode, if_true]
    cases Key.documentBytes (key.enlist t options).1 options <;> rfl
  · simp only [hmode]
    rw [hdocument]
    cases hcase : options.mode with
    | direct => exact absurd hmode (by rw [hcase]; decide)
    | legacyAminoJson => exact absurd hmode (by rw [hcase]; decide)
    | unspecified => rfl
    | textual => rfl
    | directAux => rfl

lemma exists_signTx (k : Key) (t : Tx) (options : SignOptions)
    (h : signable t.body options.mode) :
    ∃ u, k.signTx t options = (u, .ok ()) ∧ u.body = t.body := by
  have hok := signTx_isOk k t options
  have hbody := signTx_body k t options
  rw [h] at hok
  cases hsigned : k.signTx t options with
  | mk u r =>
    rw [hsigned] at hok hbody
    cases r with
    | error e => exact absurd hok (by simp [Except.isOk, Except.toBool])
    | ok done => exact ⟨u, rfl, hbody⟩

variable {k : Key} {t u : Tx} {options : SignOptions}

lemma place_le (k : Key) (t : Tx) (options : SignOptions) :
    (k.enlist t options).2 ≤ t.authInfo.signers.length := by
  have hplace : (k.enlist t options).2 =
      (t.authInfo.signers.findIdx? k.mayTake).getD t.authInfo.signers.length := rfl
  rw [hplace]
  cases hfind : t.authInfo.signers.findIdx? k.mayTake with
  | none => exact le_refl _
  | some i => exact le_of_lt (List.findIdx?_eq_some_iff_getElem.1 hfind).1

lemma enlist_signers (k : Key) (t : Tx) (options : SignOptions) (q : Nat) :
    (k.enlist t options).1.authInfo.signers[q]? =
      if q = (k.enlist t options).2 then some (k.signer options) else t.authInfo.signers[q]? := by
  have hle := place_le k t options
  have hsigners : (k.enlist t options).1.authInfo.signers =
      if (k.enlist t options).2 < t.authInfo.signers.length
        then t.authInfo.signers.set (k.enlist t options).2 (k.signer options)
        else t.authInfo.signers ++ [k.signer options] := rfl
  rw [hsigners]
  by_cases hlt : (k.enlist t options).2 < t.authInfo.signers.length
  · rw [if_pos hlt, List.getElem?_set]
    by_cases hq : q = (k.enlist t options).2
    · simp [hq, hlt]
    · simp [hq, Ne.symm hq]
  · have hlast : (k.enlist t options).2 = t.authInfo.signers.length := by omega
    rw [if_neg hlt, hlast, List.getElem?_append]
    by_cases hq : q = t.authInfo.signers.length
    · simp [hq]
    · by_cases hin : q < t.authInfo.signers.length
      · simp [hin, hq]
      · have hbehind : q - t.authInfo.signers.length ≠ 0 := by omega
        simp [hin, hq, hbehind]

lemma place_lt (k : Key) (t : Tx) (options : SignOptions) :
    (k.enlist t options).2 < (k.enlist t options).1.authInfo.signers.length := by
  have hplace := enlist_signers k t options (k.enlist t options).2
  rw [if_pos rfl] at hplace
  exact (List.getElem?_eq_some_iff.1 hplace).1

lemma enlist_signatures (k : Key) (t : Tx) (options : SignOptions) :
    (k.enlist t options).1.signatures = t.signatures ++
      List.replicate ((k.enlist t options).1.authInfo.signers.length - t.signatures.length) [] :=
  rfl

lemma documents_of_documentBytes {b : Bytes} (h : Key.documentBytes t options = .ok b) :
    options.Documents t b := by
  unfold Key.documentBytes at h
  cases hmode : options.mode with
  | direct =>
    simp only [hmode] at h
    obtain ⟨d, hd, hb⟩ := map_eq_ok.1 (mapError_eq_ok.1 h)
    exact .inl ⟨hmode, d, hd, hb⟩
  | legacyAminoJson =>
    simp only [hmode] at h
    exact .inr ⟨hmode, mapError_eq_ok.1 (mapError_eq_ok.1 h)⟩
  | unspecified | textual | directAux =>
    simp only [hmode] at h
    exact absurd h (by simp)

/-- All that happens when a transaction is signed. -/
lemma signTx_eq_ok (h : k.signTx t options = (u, .ok ())) :
    ∃ b, Key.documentBytes (k.enlist t options).1 options = .ok b ∧
      u = { (k.enlist t options).1 with
        signatures :=
          (k.enlist t options).1.signatures.set (k.enlist t options).2 (k.signBytes b) } := by
  unfold Key.signTx at h
  split at h
  · cases hdocument : Key.documentBytes (k.enlist t options).1 options with
    | error e =>
      simp only [hdocument] at h
      exact absurd (congrArg Prod.snd h) (by simp)
    | ok b =>
      simp only [hdocument] at h
      exact ⟨b, rfl, (congrArg Prod.fst h).symm⟩
  · exact absurd (congrArg Prod.snd h) (by simp)

/-- The signature is put where the signer is, and the document does not depend on the signatures. -/
lemma signedAt_of_signTx (h : k.signTx t options = (u, .ok ())) :
    k.SignedAt options t u (k.enlist t options).2 := by
  obtain ⟨b, hdocument, rfl⟩ := signTx_eq_ok h
  have hplace := place_lt k t options
  have hsignatures := enlist_signatures k t options
  generalize hsigned : (k.enlist t options).1 = signed at *
  generalize hp : (k.enlist t options).2 = p at *
  have hlength : signed.signatures.length =
      max t.signatures.length signed.authInfo.signers.length := by
    rw [hsignatures, List.length_append, List.length_replicate]
    omega
  have hother : ∀ q ≠ p, (signed.signatures.set p (k.signBytes b))[q]? = signed.signatures[q]? :=
    fun q hq => List.getElem?_set_ne (Ne.symm hq)
  refine ⟨?_, ⟨b, ?_, ?_⟩, ?_, ?_, ?_, ?_, ?_, ?_⟩
  · have hsigner := enlist_signers k t options p
    rw [hsigned, hp, if_pos rfl] at hsigner
    exact hsigner
  · exact documents_of_documentBytes hdocument
  · exact List.getElem?_set_self (by omega)
  · rw [← hsigned]; rfl
  · rw [← hsigned]; rfl
  · intro q hq
    have hsigner := enlist_signers k t options q
    rw [hsigned, hp, if_neg hq] at hsigner
    exact hsigner
  · intro q hq hlt
    rw [hother q hq, hsignatures, List.getElem?_append_left hlt]
  · intro q hq hge hlt
    rw [List.length_set] at hlt
    rw [hother q hq, hsignatures, List.getElem?_append_right hge, List.getElem?_replicate,
      if_pos (by omega)]
  · rw [List.length_set, hlength]

lemma length_signers_le {p : Nat} (h : k.SignedAt options t u p) :
    t.authInfo.signers.length ≤ u.authInfo.signers.length := by
  by_contra hlt
  by_cases hp : u.authInfo.signers.length = p
  · have hsome := (List.getElem?_eq_some_iff.1 h.signer).1
    omega
  · have hother := h.otherSigners _ hp
    rw [List.getElem?_eq_none (le_refl _), eq_comm, List.getElem?_eq_none_iff] at hother
    omega

/-- Each step keeps one signature for each signer. -/
lemma signatures_of_prepared (h : t.Prepared) :
    t.signatures.length = t.authInfo.signers.length := by
  induction h with
  | unsigned body fee => rfl
  | append signers ht ih => simp [Tx.appendEmptySignatures, ih]
  | sign k options ht hu ih =>
    have hsigned := signedAt_of_signTx hu
    have hgrown := length_signers_le hsigned
    have hlength := hsigned.length
    omega

/-- A transaction that is built from empty signatures and by signing has a signature for each signer.
Any transaction that a key signs has its signer in one place and there its signature of the document
of the signed transaction; nothing else of it changes, and a signature that is added elsewhere is
empty. -/
theorem signing_keeps_form :
    (∀ t : Tx, t.Prepared → t.signatures.length = t.authInfo.signers.length) ∧
    ∀ (k : Key) (t u : Tx) (options : SignOptions), k.signTx t options = (u, .ok ()) →
      ∃ p, k.SignedAt options t u p := by
  refine ⟨fun t ht => signatures_of_prepared ht, ?_⟩
  intro k t u options h
  exact ⟨_, signedAt_of_signTx h⟩

/-- A payment with an empty place for a signer whose key is not known and one for a key of keys. -/
def sharedTx : Tx :=
  (Tx.unsigned (.ofMessages [.send "alice" "bob" (.ofList [⟨"atom", .clamp 7⟩])])
    (.ofGas 200 .empty)).appendEmptySignatures
    [⟨4, none⟩, ⟨9, some (.multisig 1 [.ed25519 [3], .secp256k1 [2]])⟩]

def firstKey : Key := ⟨⟨2, by decide, by decide⟩⟩

def secondKey : Key := ⟨⟨3, by decide, by decide⟩⟩

theorem sharedTx_signed_twice :
    ∃ u v, firstKey.signTx sharedTx ⟨"chain", 1, 4, .direct⟩ = (u, .ok ()) ∧
      secondKey.signTx u ⟨"chain", 2, 0, .legacyAminoJson⟩ = (v, .ok ()) ∧ v.Prepared ∧
      v.signatures.length = v.authInfo.signers.length ∧
      (∃ p, firstKey.SignedAt ⟨"chain", 1, 4, .direct⟩ sharedTx u p) ∧
      ∃ p, secondKey.SignedAt ⟨"chain", 2, 0, .legacyAminoJson⟩ u v p := by
  obtain ⟨u, hu, hbody⟩ := exists_signTx firstKey sharedTx ⟨"chain", 1, 4, .direct⟩ rfl
  obtain ⟨v, hv, -⟩ := exists_signTx secondKey u ⟨"chain", 2, 0, .legacyAminoJson⟩
    (by rw [hbody]; rfl)
  have hv' : v.Prepared := .sign _ _ (.sign _ _ (.append _ (.unsigned _ _)) hu) hv
  exact ⟨u, v, hu, hv, hv', signing_keeps_form.1 v hv', signing_keeps_form.2 _ _ _ _ hu,
    signing_keeps_form.2 _ _ _ _ hv⟩

end CosmosClient.Proofs
