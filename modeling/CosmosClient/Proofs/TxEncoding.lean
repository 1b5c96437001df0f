import Mathlib
import CosmosClient.Proofs.AnyReading
import CosmosClient.Proofs.Base64Text
import CosmosClient.Tx

/-!
# Transactions read back

A transaction whose messages can be encoded is read back from its bytes and from their Base64 text, as
long as its messages nest no deeper than a reader follows them. Only a message that is kept in JSON
cannot be encoded.
-/

namespace CosmosClient.Proofs
open Wire

lemma toProtos_eq_map (ms : List ModeInfo) : ModeInfo.toProtos ms = ms.map ModeInfo.toProto := by
  induction ms with
  | nil => rfl
  | cons m ms ih => rw [ModeInfo.toProtos, ih, List.map_cons]

lemma ofNumber_number (mode : SignMode) : SignMode.ofNumber mode.number = .ok mode := by
  cases mode <;> rfl

mutual
lemma modeOfProto_toProto (m : ModeInfo) : ModeInfo.ofProto m.toProto = .ok m := by
  match m with
  | .single mode => simp only [ModeInfo.toProto, ModeInfo.ofProto, ofNumber_number, Except.map]
  | .multi signed members =>
    simp only [ModeInfo.toProto, ModeInfo.ofProto, modesOfProto_toProto members, Except.map]
    rfl

lemma modesOfProto_toProto (ms : List ModeInfo) :
    ModeInfo.ofProtos (ModeInfo.toProtos ms) = .ok ms := by
  match ms with
  | [] => rfl
  | m :: ms =>
    simp only [ModeInfo.toProtos, ModeInfo.ofProtos, modeOfProto_toProto m,
      modesOfProto_toProto ms, Except.map]
end

lemma signerOfProto_toProto {s : SignerInfo} (h : Fits s.toProto.bytes) :
    SignerInfo.ofProto s.toProto = .ok s := by
  obtain ⟨publicKey, mode, sequence⟩ := s
  have hkey : (publicKey.map PublicKey.toAny).mapM PublicKey.ofAny = .ok publicKey := by
    cases publicKey with
    | none => rfl
    | some key =>
      rw [SignerInfo.toProto, Proto.SignerInfo.bytes, encode_append, encode_append] at h
      have hany := fits_of_items (fits_of_append_left (fits_of_append_left h)) key.toAny.bytes
        (List.mem_singleton.2 rfl)
      simp only [Option.map_some, Option.mapM_some, keyOfAny_toAny key (fits_value hany)]
      rfl
  simp only [SignerInfo.ofProto, SignerInfo.toProto, hkey, bind, Except.bind, modeOfProto_toProto,
    Except.map]

lemma authOfProto_toProto {a : AuthInfo} (h : Fits a.toProto.bytes) :
    AuthInfo.ofProto a.toProto = .ok a := by
  have hsigners : (a.signers.map SignerInfo.toProto).mapM SignerInfo.ofProto = .ok a.signers := by
    refine mapM_map_ok fun s hs => signerOfProto_toProto ?_
    rw [AuthInfo.toProto, Proto.AuthInfo.bytes, encode_append] at h
    exact fits_of_items (fits_of_append_left h) _
      (List.mem_map_of_mem (List.mem_map_of_mem hs))
  simp only [AuthInfo.ofProto, AuthInfo.toProto, hsigners, bind, Except.bind, feeOfProto_toProto,
    Except.map]

lemma mapM_toAny_ofAny {ms : List Message} (hms : ∀ m ∈ ms, m.Canonical) :
    ∃ anys, ms.mapM Message.toAny = .ok anys ∧
      ((∀ a ∈ anys, Fits a.value) → anys.mapM Message.ofAny = .ok ms) := by
  induction ms with
  | nil => exact ⟨[], rfl, fun _ => rfl⟩
  | cons m ms ih =>
    obtain ⟨any, hany⟩ := toAny_of_canonical (hms m (by simp))
    obtain ⟨anys, hanys, hback⟩ := ih fun n hn => hms n (by simp [hn])
    refine ⟨any :: anys, ?_, fun hfits => ?_⟩
    · rw [List.mapM_cons, hany, hanys]
      rfl
    · have hm := messageOfAny_toAny (hms m (by simp)) hany (hfits any (by simp))
      rw [List.mapM_cons, hm, hback fun a ha => hfits a (by simp [ha])]
      rfl

lemma bodyOfProto_toProto {b : TxBody} (hb : ∀ m ∈ b.messages, m.Canonical) :
    ∃ p, b.toProto = .ok p ∧ (Fits p.bytes → TxBody.ofProto p = .ok b) := by
  obtain ⟨anys, hanys, hback⟩ := mapM_toAny_ofAny hb
  refine ⟨⟨anys, b.memo, b.timeoutHeight⟩, by rw [TxBody.toProto, hanys]; rfl, ?_⟩
  intro hfits
  rw [Proto.TxBody.bytes, encode_append, encode_append] at hfits
  have hvalues : ∀ a ∈ anys, Fits a.value := fun a ha =>
    fits_value (fits_of_items (fits_of_append_left (fits_of_append_left hfits)) a.bytes
      (List.mem_map_of_mem ha))
  rw [TxBody.ofProto, hback hvalues]
  rfl

lemma toBytes_error_iff (t : Tx) :
    (∃ e, t.toBytes = .error e) ↔ ∃ value, Message.json value ∈ t.body.messages := by
  rw [Tx.toBytes, map_error_iff, Tx.toProto, map_error_iff, TxBody.toProto, map_error_iff,
    mapM_error_iff]
  constructor
  · rintro ⟨m, hm, he⟩
    obtain ⟨value, rfl⟩ := (toAny_error_iff m).1 he
    exact ⟨value, hm⟩
  · rintro ⟨value, hm⟩
    exact ⟨_, hm, (toAny_error_iff _).2 ⟨value, rfl⟩⟩

lemma ofProto_toProto {t : Tx} (ht : ∀ m ∈ t.body.messages, m.Canonical) :
    ∃ p, t.toProto = .ok p ∧ (Fits p.bytes → Tx.ofProto p = .ok t) := by
  obtain ⟨b, hb, hback⟩ := bodyOfProto_toProto ht
  refine ⟨⟨some b, some t.authInfo.toProto, t.signatures⟩, by rw [Tx.toProto, hb]; rfl,
    fun hfits => ?_⟩
  rw [Proto.Tx.bytes, encode_append, encode_append] at hfits
  have hparts := fits_of_append_left hfits
  have hbody := hback (fits_of_items (fits_of_append_left hparts) _ (List.mem_singleton.2 rfl))
  have hauth := authOfProto_toProto
    (fits_of_items (fits_of_append_right hparts) _ (List.mem_singleton.2 rfl))
  simp only [Tx.ofProto, hbody, bind, Except.bind, hauth, Except.map]

lemma ofBytes_bytes {t : Tx} {p : Proto.Tx} (hp : Fits p.bytes → Tx.ofProto p = .ok t)
    (hroom : p.nesting ≤ maxNesting) (hfits : Fits p.bytes) : Tx.ofBytes p.bytes = .ok t := by
  have hread := decode_bytes (reads_tx p hroom hfits)
  simp only [Tx.ofBytes, hread, Except.mapError, bind, Except.bind, hp hfits]

lemma ofBase64_write {t : Tx} {b : Bytes} {before after : List Char} (h : Tx.ofBytes b = .ok t)
    (hbefore : ∀ c ∈ before, Text.isBlank c) (hafter : ∀ c ∈ after, Text.isBlank c) :
    Tx.ofBase64 (String.ofList before ++ Base64.write b ++ String.ofList after) = .ok t := by
  have htext : (String.ofList before ++ Base64.write b ++ String.ofList after).toList =
      before ++ Base64.chars b ++ after := by
    rw [Base64.write, String.toList_append, String.toList_append, String.toList_ofList,
      String.toList_ofList, String.toList_ofList]
  have hread := readCanonical_write b
  rw [Base64.write] at hread
  simp only [Tx.ofBase64, htext, trim_blank hbefore (chars_not_blank b) hafter, hread,
    Except.mapError, bind, Except.bind, h]

/-- A transaction fails to be encoded only for a message that is kept in JSON. Its encoding, when no
message in it lies deeper than a reader follows, is read back to the transaction, and so is the Base64
text of the encoding between any blanks. An encoding that is longer than what a machine can hold has
no length to write. -/
theorem tx_encoding_round_trip (t : Tx) :
    ((∃ e, t.toBytes = .error e) ↔ ∃ value, Message.json value ∈ t.body.messages) ∧
    ((∀ m ∈ t.body.messages, m.Canonical) → ∃ p, t.toProto = .ok p ∧ t.toBytes = .ok p.bytes ∧
      t.toBase64 = .ok (Base64.write p.bytes) ∧
      (p.nesting ≤ maxNesting → Fits p.bytes → Tx.ofBytes p.bytes = .ok t ∧
        ∀ before after : List Char, (∀ c ∈ before, Text.isBlank c) →
          (∀ c ∈ after, Text.isBlank c) →
          Tx.ofBase64 (String.ofList before ++ Base64.write p.bytes ++ String.ofList after) =
            .ok t)) := by
  refine ⟨toBytes_error_iff t, ?_⟩
  intro ht
  obtain ⟨p, hp, hback⟩ := ofProto_toProto ht
  have hbytes : t.toBytes = .ok p.bytes := by
    rw [Tx.toBytes, hp]
    rfl
  have htext : t.toBase64 = .ok (Base64.write p.bytes) := by
    rw [Tx.toBase64, hbytes]
    rfl
  refine ⟨p, hp, hbytes, htext, ?_⟩
  intro hroom hfits
  have hread := ofBytes_bytes hback hroom hfits
  exact ⟨hread, fun before after hbefore hafter => ofBase64_write hread hbefore hafter⟩

/-- A transaction with a message of an unknown type, a key of keys that holds the placeholder, modes
within modes, a signer without a key and an empty signature. -/
def nestedTx : Tx :=
  ⟨⟨[.send "alice" "bob" ⟨[⟨"atom", ⟨7, by decide⟩⟩], by simp, by simp⟩,
      .encoded ⟨"/other.Msg", [1, 2]⟩], "memo", 9⟩,
    ⟨[⟨some (.multisig 1 [.multisig 1 [.ed25519 [3]], .placeholder]),
        .multi (BitArray.ofSize 2) [.multi BitArray.empty [.single .legacyAminoJson]], 4⟩,
      ⟨none, .single .direct, 0⟩], Fee.ofGas 200 Coins.empty⟩, [[], [5]]⟩

theorem nestedTx_round_trip : ∃ p, nestedTx.toProto = .ok p ∧ p.nesting ≤ maxNesting ∧
    Fits p.bytes ∧ Tx.ofBytes p.bytes = .ok nestedTx ∧
    Tx.ofBase64 ("\n" ++ Base64.write p.bytes ++ " \t") = .ok nestedTx := by
  have hmessages : ∀ m ∈ nestedTx.body.messages, m.Canonical := by
    decide
  obtain ⟨p, hp, -, -, hback⟩ := (tx_encoding_round_trip nestedTx).2 hmessages
  have hroom : p.nesting ≤ maxNesting := by
    cases hp
    decide
  have hfits : Fits p.bytes := by
    cases hp
    unfold Fits
    decide +kernel
  obtain ⟨hbytes, htext⟩ := hback hroom hfits
  have hbefore : ∀ c ∈ ['\n'], Text.isBlank c := by simp [Text.isBlank]
  have hafter : ∀ c ∈ [' ', '\t'], Text.isBlank c := by simp [Text.isBlank]
  exact ⟨p, hp, hroom, hfits, hbytes, htext _ _ hbefore hafter⟩

end CosmosClient.Proofs
