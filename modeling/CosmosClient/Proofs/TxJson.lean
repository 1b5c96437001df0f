import Mathlib
import CosmosClient.Proofs.MessageJson

/-!
# Transactions read back from JSON

A transaction is written as a JSON value unless it holds a message that came encoded and is not
known. It is read back from the value when every message that came in JSON still names a type which
is not known.
-/

namespace CosmosClient.Proofs
open Json

lemma bodyToJson_error_iff (b : TxBody) :
    (∃ e, b.toJson = .error e) ↔ ∃ any, Message.encoded any ∈ b.messages := by
  rw [TxBody.toJson, map_error_iff, mapM_error_iff]
  constructor
  · rintro ⟨m, hm, he⟩
    obtain ⟨any, rfl⟩ := (messageToJson_error_iff m).1 he
    exact ⟨any, hm⟩
  · rintro ⟨any, hm⟩
    exact ⟨_, hm, (messageToJson_error_iff _).2 ⟨any, rfl⟩⟩

lemma bodyOfJson_toJson {b : TxBody} (hb : ∀ m ∈ b.messages, m.Legible) :
    ∃ j, b.toJson = .ok j ∧ TxBody.ofJson j.normal = .ok b := by
  have hback : ∀ m ∈ b.messages, ∃ j, m.toJson = .ok j ∧ Message.decode j.normal = .ok m := by
    intro m hm
    obtain ⟨j, hj⟩ := toJson_of_legible (hb m hm)
    refine ⟨j, hj, ?_⟩
    rw [(isValue_toJson (hb m hm) hj).1]
    exact decode_toJson (hb m hm) hj
  obtain ⟨js, hjs, hmessages⟩ := mapM_inverse hback
  have hlist : Json.list Message.decode (.arr (js.map normal)) = .ok b.messages := by
    rw [Json.list, List.mapM_map]
    exact hmessages
  refine ⟨_, by rw [TxBody.toJson, hjs, map_ok], ?_⟩
  have hnormal : (Json.obj [("messages", .arr js), ("memo", .str b.memo),
      ("timeout_height", .str (Number.write b.timeoutHeight.toNat))]).normal =
      .obj [("memo", .str b.memo), ("messages", .arr (js.map normal)),
        ("timeout_height", .str (Number.write b.timeoutHeight.toNat))] := by
    simp only [normal, normalItems_eq, normalFields, sortFields, List.foldl, insertField,
      String.reduceLT, String.reduceEq, if_true, if_false]
  rw [hnormal]
  simp [TxBody.ofJson, record, keepFields, slot, text, require, hlist, looseUInt64_write]

lemma txOfJson_toJson {t : Tx} (ht : ∀ m ∈ t.body.messages, m.Legible) :
    ∃ j, t.toJson = .ok j ∧ Tx.ofJson j.normal = .ok t := by
  obtain ⟨body, hbody, hback⟩ := bodyOfJson_toJson ht
  have hsignatures : Json.list Json.base64
      (.arr (t.signatures.map fun b => .str (Base64.write b))) = .ok t.signatures :=
    list_map fun b _ => base64_write b
  refine ⟨_, by rw [Tx.toJson, hbody, map_ok], ?_⟩
  have hnormal : (Json.obj [("body", body), ("auth_info", t.authInfo.toJson),
      ("signatures", .arr (t.signatures.map fun b => .str (Base64.write b)))]).normal =
      .obj [("auth_info", t.authInfo.toJson.normal), ("body", body.normal),
        ("signatures", .arr (t.signatures.map fun b => .str (Base64.write b)))] := by
    have hitems : (Json.arr (t.signatures.map fun b => .str (Base64.write b))).normal =
        .arr (t.signatures.map fun b => .str (Base64.write b)) := normal_map _ _
    simp only [normal] at hitems ⊢
    simp only [hitems, normalFields, normal, sortFields, List.foldl, insertField,
      String.reduceLT, String.reduceEq, if_true, if_false]
  rw [hnormal]
  simp [Tx.ofJson, record, keepFields, slot, require, hback, authOfJson_toJson, hsignatures]

lemma txToJson_error_iff (t : Tx) :
    (∃ e, t.toJson = .error e) ↔ ∃ any, Message.encoded any ∈ t.body.messages := by
  rw [Tx.toJson, map_error_iff]
  exact bodyToJson_error_iff t.body

/-- A transaction fails to be written in JSON only for an encoded message of an unknown type. It is
read back from the value it is written as when its other messages are known or are JSON values which
name a type that is not. -/
theorem tx_json_round_trip (t : Tx) :
    ((∃ e, t.toJson = .error e) ↔ ∃ any, Message.encoded any ∈ t.body.messages) ∧
    ((∀ m ∈ t.body.messages, m.Legible) →
      ∃ j, t.toJson = .ok j ∧ Json.decodeValue Tx.ofJson j.normal = .ok t) := by
  refine ⟨txToJson_error_iff t, ?_⟩
  intro ht
  obtain ⟨j, hj, hback⟩ := txOfJson_toJson ht
  refine ⟨j, hj, ?_⟩
  rw [decodeValue, normal_normal, hback, settle, mapError_ok]

/-- A transaction with a message of an unknown type in JSON, the largest amount, a key of keys that
holds the placeholder, modes within modes, a signer without a key and an empty signature. -/
def foreignTx : Tx :=
  ⟨⟨[.send "alice" "bob" ⟨[⟨"atom", ⟨2 ^ 128 - 1, by decide⟩⟩], by simp, by simp⟩,
      .json (.obj [("@type", .str "/other.Msg"), ("value", .arr [.null, .int (-1)])])],
      "memo \"é\"", 9⟩,
    ⟨[⟨some (.multisig 1 [.multisig 1 [.ed25519 [3]], .placeholder]),
        .multi (BitArray.ofSize 2) [.multi BitArray.empty [.single .legacyAminoJson]], 4⟩,
      ⟨none, .single .direct, 0⟩], Fee.ofGas 200 Coins.empty⟩, [[], [5]]⟩

theorem foreignTx_round_trip :
    ∃ j, foreignTx.toJson = .ok j ∧ Json.decodeValue Tx.ofJson j.normal = .ok foreignTx := by
  have hvalue : (Json.obj [("@type", .str "/other.Msg"),
      ("value", .arr [.null, .int (-1)])]).IsValue := by
    refine ⟨?_, rfl⟩
    simp only [normal, normalFields, normalItems, sortFields, List.foldl, insertField,
      String.reduceLT, String.reduceEq, if_false]
  have hmessages : ∀ m ∈ foreignTx.body.messages, m.Legible := by
    simp only [foreignTx, List.forall_mem_cons, Message.Legible, List.not_mem_nil, false_imp_iff,
      implies_true, and_true, true_and]
    exact ⟨hvalue, "/other.Msg", by decide, by decide⟩
  exact (tx_json_round_trip foreignTx).2 hmessages

end CosmosClient.Proofs
