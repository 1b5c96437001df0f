import Mathlib
import CosmosClient.Proofs.AnyReading
import CosmosClient.Proofs.JsonReading

/-!
# Messages read back from JSON

The JSON form of a message is a value with sorted fields, among them the type that tells how to read
the others. A message of a type that is not known is its own JSON form.
-/

namespace CosmosClient

/-- A known message, or a JSON value that names a type which is none of the known types. -/
def Message.Legible : Message → Prop
  | .encoded _ => False
  | .json value => value.IsValue ∧
    ∃ url, Message.jsonTypeUrl? value = some url ∧ Message.Kind.ofTypeUrl? url = none
  | _ => True

end CosmosClient

namespace CosmosClient.Proofs
open Json

lemma isValue_str (s : String) : (Json.str s).IsValue :=
  ⟨rfl, rfl⟩

lemma isValue_arr {items : List Json} (h : ∀ j ∈ items, j.IsValue) : (Json.arr items).IsValue := by
  refine ⟨normal_arr fun j hj => (h j hj).1, ?_⟩
  rw [firstFlaw, firstFlawItems_eq_none]
  exact fun j hj => (h j hj).2

lemma isValue_obj {fields : List (String × Json)} (hkeys : Increasing fields)
    (h : ∀ f ∈ fields, f.2.IsValue) : (Json.obj fields).IsValue := by
  refine ⟨normal_obj hkeys fun f hf => (h f hf).1, ?_⟩
  rw [firstFlaw, firstFlawFields_eq_none]
  exact fun f hf => (h f hf).2

lemma isValue_coin (c : Coin) : c.toJson.normal.IsValue :=
  isValue_normal rfl

lemma isValue_coins (cs : Coins) : cs.toJson.normal.IsValue := by
  refine isValue_normal ?_
  exact firstFlawItems_map fun c _ => rfl

lemma isValue_party (p : Party) : (Message.partyToJson p).IsValue := by
  have hkeys : "address" < "coins" := by decide
  refine isValue_obj (List.pairwise_pair.2 hkeys) ?_
  simp [isValue_str, isValue_coins]

lemma isValue_parties (parties : List Party) :
    (Json.arr (parties.map Message.partyToJson)).IsValue := by
  refine isValue_arr fun j hj => ?_
  obtain ⟨p, -, rfl⟩ := List.mem_map.1 hj
  exact isValue_party p

lemma partyOfJson_toJson (p : Party) : Message.partyOfJson (Message.partyToJson p) = .ok p := by
  simp [Message.partyOfJson, Message.partyToJson, record, keepFields, slot, text, require,
    coinsOfJson_toJson]

/-- A known message is read back from its fields. -/
lemma ofFields_fields {m : Message} {kind : Message.Kind} (h : m.kind? = some kind) :
    Message.ofFields kind (.obj m.fields) = .ok m := by
  have hparties (parties : List Party) :
      Json.list Message.partyOfJson (.arr (parties.map Message.partyToJson)) = .ok parties :=
    list_map fun p _ => partyOfJson_toJson p
  cases m with
  | encoded _ | json _ => simp [Message.kind?] at h
  | send _ _ _ | multiSend _ _ | delegate _ _ _ | undelegate _ _ _ | redelegate _ _ _ _
  | withdrawReward _ _ =>
    obtain rfl := Option.some.inj h
    simp [Message.ofFields, Message.stakeOfJson, Message.fields, record, keepFields, slot, text,
      require, coinsOfJson_toJson, coinOfJson_toJson, hparties]

/-- The type stands before the other fields, and none of them has its key. -/
lemma type_lt_fields (m : Message) : ∀ f ∈ m.fields, "@type" < f.1 := by
  cases m <;> simp only [Message.fields, List.forall_mem_cons, List.not_mem_nil, false_imp_iff,
    implies_true, and_true, String.reduceLT]

lemma fields_increasing (m : Message) : Increasing m.fields := by
  cases m <;> simp only [Message.fields, Increasing, List.pairwise_cons, List.Pairwise.nil,
    List.forall_mem_cons, List.not_mem_nil, false_imp_iff, implies_true, and_true, String.reduceLT]

lemma key_ne_type {m : Message} {f : String × Json} (hf : f ∈ m.fields) : f.1 ≠ "@type" :=
  fun h => String.lt_irrefl _ (h ▸ type_lt_fields m f hf)

lemma isValue_fields (m : Message) : ∀ f ∈ m.fields, f.2.IsValue := by
  cases m <;> simp [Message.fields, isValue_str, isValue_coin, isValue_coins, isValue_parties]

lemma toJson_of_kind {m : Message} {kind : Message.Kind} (h : m.kind? = some kind) :
    m.toJson = .ok (.obj (("@type", .str kind.typeUrl) :: m.fields)) := by
  cases m <;> cases h <;> rfl

lemma jsonTypeUrl?_fields (m : Message) (url : String) :
    Message.jsonTypeUrl? (.obj (("@type", .str url) :: m.fields)) = some url := by
  have hrest : m.fields.reverse.find? (fun f => f.1 == "@type") = none := by
    refine List.find?_eq_none.2 fun f hf => ?_
    simpa using key_ne_type (List.mem_reverse.1 hf)
  simp [Message.jsonTypeUrl?, field?, hrest, text?]

lemma withoutType_fields (m : Message) (type : Json) :
    Message.withoutType (.obj (("@type", type) :: m.fields)) = .obj m.fields := by
  have hrest : m.fields.filter (fun f => f.1 != "@type") = m.fields :=
    List.filter_eq_self.2 fun f hf => by simpa using key_ne_type hf
  simp [Message.withoutType, hrest]

lemma isValue_toJson {m : Message} {j : Json} (hm : m.Legible) (hj : m.toJson = .ok j) :
    j.IsValue := by
  cases hkind : m.kind? with
  | some kind =>
    rw [toJson_of_kind hkind] at hj
    obtain rfl := Except.ok.inj hj
    refine isValue_obj (List.pairwise_cons.2 ⟨type_lt_fields m, fields_increasing m⟩) ?_
    exact List.forall_mem_cons.2 ⟨isValue_str _, isValue_fields m⟩
  | none =>
    cases m <;> simp [Message.kind?] at hkind
    case encoded => exact hm.elim
    case json value =>
      obtain rfl := Except.ok.inj hj
      exact hm.1

/-- A message is read back from its JSON form. -/
lemma decode_toJson {m : Message} {j : Json} (hm : m.Legible) (hj : m.toJson = .ok j) :
    Message.decode j = .ok m := by
  have hany := any_of_isValue (isValue_toJson hm hj)
  rw [Message.decode, hany, ok_bind, mapError_eq_ok, Message.ofJson]
  cases hkind : m.kind? with
  | some kind =>
    rw [toJson_of_kind hkind] at hj
    obtain rfl := Except.ok.inj hj
    simp only [jsonTypeUrl?_fields, ofTypeUrl?_typeUrl, withoutType_fields, ofFields_fields hkind,
      settle, mapError_ok]
  | none =>
    cases m <;> simp [Message.kind?] at hkind
    case encoded => exact hm.elim
    case json value =>
      obtain rfl := Except.ok.inj hj
      obtain ⟨-, url, hurl, hunknown⟩ := hm
      simp only [hurl, hunknown]

lemma messageToJson_error_iff (m : Message) :
    (∃ e, m.toJson = .error e) ↔ ∃ any, m = .encoded any := by
  cases m <;> simp [Message.toJson]

lemma toJson_of_legible {m : Message} (hm : m.Legible) : ∃ j, m.toJson = .ok j := by
  cases m <;> simp_all [Message.toJson, Message.Legible]

end CosmosClient.Proofs
