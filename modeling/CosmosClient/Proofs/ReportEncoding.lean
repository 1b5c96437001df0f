import Mathlib
import CosmosClient.Proofs.LossyText
import CosmosClient.Proofs.TxEncoding
import CosmosClient.TxInfo

/-!
# Reports in messages

A report on a transaction goes into a message and comes back from it. The events of the whole
transaction change to another message on the way, which has the same encoding, and back.
-/

namespace CosmosClient

namespace TxInfo

/-- Nothing is there in vain: neither a code nor a code space nor logs that say nothing. The logs are
indexed. -/
structure Normal (info : TxInfo) : Prop where
  code : info.code ≠ some 0
  codespace : info.codespace ≠ some ""
  logs : info.logs ≠ some []
  indexed : ∀ logs ∈ info.logs, ∀ l ∈ logs, l.byKind = EventIndex.ofEvents l.events

end TxInfo

/-- The event of older nodes that has the same encoding. -/
def Proto.AbciEvent.older (e : Proto.AbciEvent) : Proto.Event :=
  ⟨e.kind, e.attributes.map fun a => ⟨a.key, a.value, false⟩⟩

end CosmosClient

namespace CosmosClient.Proofs
open Wire

lemma reads_eventAttribute (a : Proto.EventAttribute) (depth : Nat) (h : Fits a.bytes) :
    Reads Proto.EventAttribute.merge depth a.bytes {} a := by
  unfold Proto.EventAttribute.bytes at h ⊢
  rw [encode_append, encode_append] at h
  have hparts := fits_of_append_left h
  have hindex : ((if a.index then (1 : UInt64) else 0) != 0) = a.index := by
    cases a.index <;> rfl
  refine reads_encode (((puts_bytes a.key rfl (by decide) (fits_of_append_left hparts) rfl rfl).append
    (puts_bytes a.value rfl (by decide) (fits_of_append_right hparts) rfl rfl)).append
    (puts_number _ rfl (by decide) rfl ?_))
  rw [hindex]

lemma reads_event {depth : Nat} (e : Proto.Event) (hroom : 0 < depth) (h : Fits e.bytes) :
    Reads Proto.Event.merge depth e.bytes {} e := by
  unfold Proto.Event.bytes at h ⊢
  rw [encode_append] at h
  exact reads_encode ((puts_text e.kind rfl (by decide) (fits_of_append_left h) rfl rfl).append
    (puts_messages (Proto.Event.mk e.kind) e.attributes rfl (by decide) (fits_of_append_right h)
      (fun _ _ => rfl) fun a _ ha => ⟨hroom, reads_eventAttribute a _ ha⟩))

lemma reads_abciAttribute (a : Proto.AbciAttribute) (depth : Nat) (h : Fits a.bytes) :
    Reads Proto.AbciAttribute.merge depth a.bytes {} a := by
  unfold Proto.AbciAttribute.bytes at h ⊢
  rw [encode_append] at h
  exact reads_encode ((puts_bytes a.key rfl (by decide) (fits_of_append_left h) rfl rfl).append
    (puts_bytes a.value rfl (by decide) (fits_of_append_right h) rfl rfl))

lemma reads_abciEvent {depth : Nat} (e : Proto.AbciEvent) (hroom : 0 < depth) (h : Fits e.bytes) :
    Reads Proto.AbciEvent.merge depth e.bytes {} e := by
  unfold Proto.AbciEvent.bytes at h ⊢
  rw [encode_append] at h
  exact reads_encode ((puts_text e.kind rfl (by decide) (fits_of_append_left h) rfl rfl).append
    (puts_messages (Proto.AbciEvent.mk e.kind) e.attributes rfl (by decide) (fits_of_append_right h)
      (fun _ _ => rfl) fun a _ ha => ⟨hroom, reads_abciAttribute a _ ha⟩))

lemma older_bytes (e : Proto.AbciEvent) : e.older.bytes = e.bytes := by
  have hattribute (a : Proto.AbciAttribute) :
      Proto.EventAttribute.bytes ⟨a.key, a.value, false⟩ = a.bytes := by
    simp [Proto.EventAttribute.bytes, Proto.AbciAttribute.bytes, number]
  rw [Proto.Event.bytes, Proto.AbciEvent.older, List.map_map]
  exact congrArg (fun bs => encode (Wire.text 1 e.kind ++ items 2 bs))
    (List.map_congr_left fun a _ => hattribute a)

lemma ofAbci_toAbci (e : Event) : Event.ofAbci e.toAbci = e := by
  have hattribute (a : Attribute) : (⟨Utf8.decodeLossy (Utf8.encode a.key),
      Utf8.decodeLossy (Utf8.encode a.value)⟩ : Attribute) = a := by
    rw [decodeLossy_encode, decodeLossy_encode]
  simp only [Event.ofAbci, Event.toAbci, List.map_map, Function.comp_def, hattribute, List.map_id']

lemma toProtoBytes_eq {e : Event} (h : Fits e.toAbci.bytes) : e.toProtoBytes = .ok e.toAbci.older := by
  rw [← older_bytes] at h
  have hread := decode_bytes (reads_event e.toAbci.older (by decide) h)
  rw [Event.toProtoBytes, Event.reencode, ← older_bytes, hread, mapError_ok]

lemma ofProtoBytes_toAbci {e : Event} (h : Fits e.toAbci.bytes) :
    Event.ofProtoBytes e.toAbci.older = .ok e := by
  have hread := decode_bytes (reads_abciEvent e.toAbci (by decide) h)
  rw [Event.ofProtoBytes, Event.reencode, older_bytes, hread, mapError_ok, map_ok, ofAbci_toAbci]

lemma eventsOfProto_toProto {events : List Event} (h : ∀ e ∈ events, Fits e.toAbci.bytes) :
    ∃ ps, events.mapM Event.toProtoBytes = .ok ps ∧ ps.mapM Event.ofProtoBytes = .ok events :=
  mapM_inverse fun e he => ⟨_, toProtoBytes_eq (h e he), ofProtoBytes_toAbci (h e he)⟩

lemma logOfProto_toProto {l : MessageLog} (h : l.byKind = EventIndex.ofEvents l.events) :
    MessageLog.ofProto l.toProto = l := by
  have hevent (e : Event) : Event.ofProto e.toProto = e := by
    simp [Event.ofProto, Event.toProto, Function.comp_def]
  have hevents : (l.events.map Event.toProto).map Event.ofProto = l.events := by
    rw [List.map_map]
    exact (List.map_congr_left fun e _ => hevent e).trans (List.map_id' _)
  cases l
  simp_all [MessageLog.ofProto, MessageLog.toProto, MessageLog.ofEvents]

lemma logsOfProto_toProto {logs : Option (List MessageLog)} (hlogs : logs ≠ some [])
    (hindexed : ∀ ls ∈ logs, ∀ l ∈ ls, l.byKind = EventIndex.ofEvents l.events) :
    MessageLog.listOfProto ((logs.getD []).map MessageLog.toProto) = logs := by
  cases logs with
  | none => rfl
  | some ls =>
    have hne : ls ≠ [] := fun hnil => hlogs (congrArg some hnil)
    have hback : (ls.map MessageLog.toProto).map MessageLog.ofProto = ls := by
      rw [List.map_map]
      exact (List.map_congr_left fun l hl => logOfProto_toProto (hindexed ls rfl l hl)).trans
        (List.map_id' _)
    simp [MessageLog.listOfProto, hne, hback]

lemma normal_of_ofProto {p : Proto.TxResponse} {info : TxInfo} (h : TxInfo.ofProto p = .ok info) :
    info.Normal := by
  unfold TxInfo.ofProto at h
  split at h
  next => simp at h
  next any _ =>
    split at h
    next => simp at h
    next =>
      simp only [bind_eq_ok, pure_eq_ok] at h
      obtain ⟨tx, -, events, -, rfl⟩ := h
      constructor
      case code =>
        show (if p.code = 0 then none else some p.code) ≠ some 0
        split <;> simp_all
      case codespace =>
        show (if p.codespace = "" then none else some p.codespace) ≠ some ""
        split <;> simp_all
      case logs =>
        show MessageLog.listOfProto p.logs ≠ some []
        unfold MessageLog.listOfProto
        split <;> simp_all
      case indexed =>
        show ∀ logs ∈ MessageLog.listOfProto p.logs, _
        intro logs hlogs l hl
        unfold MessageLog.listOfProto at hlogs
        split at hlogs
        · simp at hlogs
        · obtain rfl := Option.some.inj hlogs
          obtain ⟨q, -, rfl⟩ := List.mem_map.1 hl
          rfl

lemma infoToProto_error_iff {info : TxInfo} (h : ∀ e ∈ info.events, Fits e.toAbci.bytes) :
    (∃ e, info.toProto = .error e) ↔ ∃ value, Message.json value ∈ info.tx.body.messages := by
  obtain ⟨ps, hps, -⟩ := eventsOfProto_toProto h
  rw [← toBytes_error_iff, TxInfo.toProto, hps]
  cases info.tx.toBytes <;> simp [bind, Except.bind, pure, Except.pure]

lemma infoOfProto_toProto {info : TxInfo} (hinfo : info.Normal)
    (hevents : ∀ e ∈ info.events, Fits e.toAbci.bytes) {b : Bytes} (hb : info.tx.toBytes = .ok b)
    (hback : Tx.ofBytes b = .ok info.tx) :
    ∃ p, info.toProto = .ok p ∧ TxInfo.ofProto p = .ok info := by
  obtain ⟨ps, hps, hevents⟩ := eventsOfProto_toProto hevents
  refine ⟨_, by rw [TxInfo.toProto, hb, ok_bind, hps, ok_bind]; rfl, ?_⟩
  have hlogs := logsOfProto_toProto hinfo.logs hinfo.indexed
  have hcode : (if info.code.getD 0 = 0 then none else some (info.code.getD 0)) = info.code := by
    have hne := hinfo.code
    cases hsome : info.code <;> simp_all
  have hcodespace : (if info.codespace.getD "" = "" then none else some (info.codespace.getD "")) =
      info.codespace := by
    have hne := hinfo.codespace
    cases hsome : info.codespace <;> simp_all
  simp only [TxInfo.ofProto, ne_eq, not_true_eq_false, if_false, hback, hevents, ok_bind, pure_ok,
    hlogs, hcode, hcodespace]

end CosmosClient.Proofs
