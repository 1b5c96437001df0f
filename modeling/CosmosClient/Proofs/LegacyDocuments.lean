import Mathlib
import CosmosClient.Proofs.JsonText
import CosmosClient.Proofs.MessageJson

/-!
# Documents of legacy signing told apart

The text that is signed in legacy signing determines the document: its fields, also those that may be
missing, and its messages. All it holds are strings, numbers among them.
-/

namespace CosmosClient.Json

/-- A field that is missing when its text is empty. -/
def textField (key s : String) : List (String × Json) :=
  if s = "" then [] else [(key, .str s)]

end CosmosClient.Json

namespace CosmosClient.Proofs
open Json LegacySignDoc

lemma textual_normal {j : Json} (h : j.Textual) : j.normal.Textual := by
  induction h with
  | str s => exact .str s
  | arr _ ih =>
    rw [normal, normalItems_eq]
    refine .arr fun j hj => ?_
    obtain ⟨i, hi, rfl⟩ := List.mem_map.1 hj
    exact ih i hi
  | obj _ ih =>
    rw [normal, normalFields_eq]
    refine .obj fun f hf => ?_
    obtain ⟨g, hg, rfl⟩ := List.mem_map.1 (mem_of_mem_sortFields hf)
    exact ih g hg

lemma textual_map {α : Type} {write : α → Json} {l : List α} (h : ∀ a ∈ l, (write a).Textual) :
    (Json.arr (l.map write)).Textual := by
  refine .arr fun j hj => ?_
  obtain ⟨a, ha, rfl⟩ := List.mem_map.1 hj
  exact h a ha

lemma textual_coin (c : Coin) : c.toJson.Textual :=
  .obj (by simp [Textual.str])

lemma textual_coins (cs : Coins) : cs.toJson.Textual :=
  textual_map fun c _ => textual_coin c

lemma textual_party (p : Party) : (Message.partyToJson p).Textual :=
  .obj (by simp [Textual.str, textual_normal (textual_coins p.coins)])

lemma textual_fields (m : Message) : (Json.obj m.fields).Textual := by
  have hparties (parties : List Party) :
      (Json.arr (parties.map Message.partyToJson)).Textual := textual_map fun p _ => textual_party p
  refine .obj ?_
  cases m <;> simp [Message.fields, Textual.str, textual_normal (textual_coins _),
    textual_normal (textual_coin _), hparties]

lemma textual_fee (f : Fee) : f.toAminoJson.Textual := by
  refine .obj ?_
  simp only [List.forall_mem_append, List.forall_mem_cons]
  refine ⟨⟨⟨textual_coins _, .str _, by simp⟩, ?_⟩, ?_⟩
  · split <;> simp [Textual.str]
  · split <;> simp [Textual.str]

lemma aminoName_injective : Function.Injective Message.Kind.aminoName := by
  intro kind other h
  cases kind <;> cases other <;> first | rfl | exact absurd h (by decide)

lemma toAminoJson_eq_ok {m : Message} {j : Json} (h : m.toAminoJson = .ok j) :
    ∃ kind, m.kind? = some kind ∧
      j = .obj [("type", .str kind.aminoName), ("value", .obj m.fields)] := by
  unfold Message.toAminoJson at h
  split at h
  next kind hkind => exact ⟨kind, hkind, (Except.ok.inj h).symm⟩
  next => exact absurd h (by simp)

lemma textual_message {m : Message} {j : Json} (h : m.toAminoJson = .ok j) : j.Textual := by
  obtain ⟨kind, -, rfl⟩ := toAminoJson_eq_ok h
  exact .obj (by simp [Textual.str, textual_fields m])

lemma normal_message {m : Message} {j : Json} (h : m.toAminoJson = .ok j) : j.normal = j := by
  obtain ⟨kind, -, rfl⟩ := toAminoJson_eq_ok h
  have hkeys : "type" < "value" := by decide
  have hvalue : (Json.obj m.fields).IsValue := isValue_obj (fields_increasing m) (isValue_fields m)
  refine (isValue_obj (List.pairwise_pair.2 hkeys) ?_).1
  simp [isValue_str, hvalue]

lemma message_toAminoJson_inj {m n : Message} {j : Json} (hm : m.toAminoJson = .ok j)
    (hn : n.toAminoJson = .ok j) : m = n := by
  obtain ⟨kind, hkind, rfl⟩ := toAminoJson_eq_ok hm
  obtain ⟨other, hother, h⟩ := toAminoJson_eq_ok hn
  simp only [Json.obj.injEq, List.cons.injEq, Prod.mk.injEq, Json.str.injEq, true_and,
    and_true] at h
  obtain rfl := aminoName_injective h.1
  have hread := ofFields_fields hkind
  rw [h.2, ofFields_fields hother] at hread
  exact (Except.ok.inj hread).symm

lemma digits_toNat_injective : Function.Injective fun n : UInt64 => Number.digits n.toNat :=
  injective_of_read readUInt64_digits

lemma write_toNat_injective : Function.Injective fun n : UInt64 => Number.write n.toNat := by
  intro n m h
  have hdigits := congrArg String.toList h
  simp only [Number.write, String.toList_ofList] at hdigits
  exact digits_toNat_injective hdigits

lemma coins_toJson_injective : Function.Injective fun cs : Coins => cs.toJson.normal :=
  injective_of_read coinsOfJson_toJson

lemma fee_normal (f : Fee) : f.toAminoJson.normal =
    .obj (("amount", f.amount.toJson.normal) :: ("gas", .str (Number.write f.gasLimit.toNat)) ::
      (textField "granter" f.granter ++ textField "payer" f.payer)) := by
  have hkeys : Increasing ([("amount", f.amount.toJson),
      ("gas", .str (Number.write f.gasLimit.toNat))] ++
      (if f.granter = "" then [] else [("granter", .str f.granter)]) ++
      (if f.payer = "" then [] else [("payer", .str f.payer)])) := by
    split <;> split <;> simp only [Increasing, List.append_nil, List.cons_append, List.nil_append,
      List.pairwise_cons, List.Pairwise.nil, List.forall_mem_cons, List.not_mem_nil, false_imp_iff,
      implies_true, and_true, String.reduceLT]
  rw [Fee.toAminoJson, normal_of_increasing hkeys]
  unfold textField
  split <;> split <;> simp [normal]

lemma textField_append_inj {key key' s s' t t' : String} (hkey : key ≠ key')
    (h : textField key s ++ textField key' t = textField key s' ++ textField key' t') :
    s = s' ∧ t = t' := by
  unfold textField at h
  split at h <;> split at h <;> split at h <;> split at h <;> simp_all

lemma fee_toAminoJson_injective : Function.Injective fun f : Fee => f.toAminoJson.normal := by
  intro f g h
  simp only [fee_normal, Json.obj.injEq, List.cons.injEq, Prod.mk.injEq, Json.str.injEq,
    true_and] at h
  obtain ⟨hamount, hgas, hrest⟩ := h
  have hamount := coins_toJson_injective hamount
  have hgas := write_toNat_injective hgas
  have hrest := textField_append_inj (by decide) hrest
  cases f
  cases g
  simp_all

lemma document_normal (d : LegacySignDoc) {j : Json} (h : d.toJson = .ok j) :
    ∃ messages, d.messages.mapM Message.toAminoJson = .ok messages ∧
      j.normal = .obj ([("account_number", .str (Number.write d.accountNumber.toNat)),
        ("chain_id", .str d.chainId), ("fee", d.fee.toAminoJson.normal), ("memo", .str d.memo),
        ("msgs", .arr messages), ("sequence", .str (Number.write d.sequence.toNat))] ++
      if d.timeoutHeight = 0 then []
      else [("timeout_height", .str (Number.write d.timeoutHeight.toNat))]) := by
  obtain ⟨messages, hmessages, rfl⟩ := map_eq_ok.1 h
  refine ⟨messages, hmessages, ?_⟩
  have hitems : normalItems messages = messages := by
    rw [normalItems_eq]
    refine (List.map_congr_left fun j hj => ?_).trans (List.map_id messages)
    obtain ⟨m, -, hm⟩ := mem_of_mapM_eq_ok hmessages j hj
    rw [normal_message hm, id]
  rw [normal_of_increasing]
  · split <;> simp [normal, hitems]
  · split <;> simp only [Increasing, List.append_nil, List.cons_append, List.nil_append,
      List.pairwise_cons, List.Pairwise.nil, List.forall_mem_cons, List.not_mem_nil, false_imp_iff,
      implies_true, and_true, String.reduceLT]

lemma textual_toJson {d : LegacySignDoc} {j : Json} (h : d.toJson = .ok j) : j.Textual := by
  obtain ⟨messages, hmessages, rfl⟩ := map_eq_ok.1 h
  refine .obj ?_
  have hlist : (Json.arr messages).Textual := .arr fun j hj => by
    obtain ⟨m, -, hm⟩ := mem_of_mapM_eq_ok hmessages j hj
    exact textual_message hm
  split <;> simp [Textual.str, textual_fee, hlist]

lemma textual_document {d : LegacySignDoc} {j : Json} (h : d.toJson = .ok j) :
    j.normal.Textual :=
  textual_normal (textual_toJson h)

lemma document_toJson_inj {d e : LegacySignDoc} {j k : Json} (hd : d.toJson = .ok j)
    (he : e.toJson = .ok k) (h : j.normal = k.normal) : d = e := by
  obtain ⟨messages, hmessages, hj⟩ := document_normal d hd
  obtain ⟨others, hothers, hk⟩ := document_normal e he
  rw [hj, hk] at h
  simp only [List.cons_append, List.nil_append, Json.obj.injEq, List.cons.injEq, Prod.mk.injEq,
    Json.str.injEq, Json.arr.injEq, true_and] at h
  obtain ⟨haccount, hchain, hfee, hmemo, rfl, hsequence, htimeout⟩ := h
  have haccount := write_toNat_injective haccount
  have hfee := fee_toAminoJson_injective hfee
  have hlist := mapM_injective (fun m _ n _ _ => message_toAminoJson_inj) hmessages hothers
  have hsequence := write_toNat_injective hsequence
  have htimeout : d.timeoutHeight = e.timeoutHeight := by
    split at htimeout <;> split at htimeout
    · simp_all
    · simp at htimeout
    · simp at htimeout
    · exact write_toNat_injective (by simpa using htimeout)
  cases d
  cases e
  simp_all

lemma encode_ofList_injective : Function.Injective fun cs => Utf8.encode (String.ofList cs) := by
  intro cs ds h
  have hdecoded := congrArg Utf8.decode? h
  simp only [Utf8.decode_encode, Option.some.injEq] at hdecoded
  have hlist := congrArg String.toList hdecoded
  simpa using hlist

lemma legacyBytes_eq_ok {d : LegacySignDoc} {b : Bytes} (h : d.bytes = .ok b) :
    ∃ j, d.toJson = .ok j ∧ b = Utf8.encode (String.ofList (signed.spell j.normal)) := by
  obtain ⟨cs, hcs, rfl⟩ := map_eq_ok.1 h
  obtain ⟨j, hj, rfl⟩ := map_eq_ok.1 hcs
  exact ⟨j, hj, rfl⟩

/-- The bytes of a document determine it. -/
lemma legacyBytes_inj {d e : LegacySignDoc} {b : Bytes} (hd : d.bytes = .ok b)
    (he : e.bytes = .ok b) : d = e := by
  obtain ⟨j, hj, rfl⟩ := legacyBytes_eq_ok hd
  obtain ⟨k, hk, h⟩ := legacyBytes_eq_ok he
  have hspell := encode_ofList_injective h
  exact document_toJson_inj hj hk (spell_inj signed (textual_document hj) (textual_document hk) hspell)

end CosmosClient.Proofs
