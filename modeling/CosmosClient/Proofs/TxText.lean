import Mathlib
import CosmosClient.Proofs.DocumentDepth
import CosmosClient.Proofs.TxEncoding
import CosmosClient.Proofs.TxJson

/-!
# Transactions read from a text

A text nests no deeper than its reader allows, and a level of messages takes more than one level of
the text. So a transaction that was read from a text never nests too deep for its encoding to be read
back, and none of its messages comes back as another kind of message.
-/

namespace CosmosClient.Proofs
open Json

lemma depth_pos_of_record {σ : Type} {slots : List (Slot σ)} {start s : σ} {j : Json}
    (h : record slots start j = .ok s) : 0 < j.depth := by
  unfold record at h
  split at h
  · exact Nat.succ_pos _
  · exact Nat.succ_pos _
  · cases j <;> simp [mismatch] at h

lemma depth_pos_of_list {α : Type} {decode : Decoder α} {j : Json} {l : List α}
    (h : Json.list decode j = .ok l) : 0 < j.depth := by
  unfold Json.list at h
  split at h
  · exact Nat.succ_pos _
  · cases j <;> simp [mismatch] at h

lemma singleOfJson_depth {j : Json} {mode : SignMode} (h : ModeInfo.singleOfJson j = .ok mode) :
    0 < j.depth := by
  obtain ⟨s, hrecord, -⟩ := bind_eq_ok.1 h
  exact depth_pos_of_record hrecord

lemma multiOfJson_inside {member : Decoder ModeInfo} {j : Json} {m : ModeInfo}
    (h : ModeInfo.multiOfJson member j = .ok m) :
    ∃ signed members, m = .multi signed members ∧ Inside (Json.list member) j members := by
  obtain ⟨s, hrecord, h⟩ := bind_eq_ok.1 h
  obtain ⟨signed, hsigned, h⟩ := bind_eq_ok.1 h
  obtain ⟨members, hmembers, h⟩ := bind_eq_ok.1 h
  obtain rfl := pure_eq_ok.1 h
  refine ⟨signed, members, rfl, ?_⟩
  refine record_inside (fun s => s.2) _ ?_ rfl hrecord (require_eq_ok.1 hmembers)
  grind [slot, map_eq_ok]

lemma modeOfJson_cases {bound : Nat} {j : Json} {m : ModeInfo}
    (h : ModeInfo.ofJsonWithin (bound + 1) j = .ok m) :
    ∃ c, (j = .obj [("single", c)] ∧ ∃ mode, ModeInfo.singleOfJson c = .ok mode ∧ m = .single mode) ∨
      (j = .obj [("multi", c)] ∧ ModeInfo.multiOfJson (ModeInfo.ofJsonWithin bound) c = .ok m) := by
  rw [ModeInfo.ofJsonWithin] at h
  obtain ⟨name, read, hread, hname⟩ := variant_eq_ok h
  dsimp only at hread
  split at hread
  next hsingle =>
    obtain rfl := Option.some.inj hread
    rcases hname with ⟨-, hnone⟩ | ⟨c, rfl, hcontent⟩
    · exact absurd hnone (by simp)
    · obtain ⟨mode, hmode, rfl⟩ := map_eq_ok.1 hcontent
      exact ⟨c, .inl ⟨by rw [hsingle], mode, hmode, rfl⟩⟩
  next =>
    split at hread
    next hmulti =>
      obtain rfl := Option.some.inj hread
      rcases hname with ⟨-, hnone⟩ | ⟨c, rfl, hcontent⟩
      · exact absurd hnone (by simp)
      · exact ⟨c, .inr ⟨by rw [hmulti], hcontent⟩⟩
    next => exact absurd hread (by simp)

lemma multi_nesting (signed : BitArray) (members : List ModeInfo) :
    (ModeInfo.multi signed members).toProto.nesting =
      Proto.below [Proto.below (0 :: members.map fun m => m.toProto.nesting)] := by
  rw [ModeInfo.toProto, Proto.ModeInfo.nesting, toProtos_eq_map, nestings_eq_map, List.map_map]
  rfl

/-- Two levels of messages take at least three levels of the text. -/
lemma mode_nesting {bound : Nat} {j : Json} {m : ModeInfo}
    (h : ModeInfo.ofJsonWithin bound j = .ok m) : 3 * m.toProto.nesting ≤ 2 * j.depth := by
  induction bound generalizing j m with
  | zero => exact absurd h (by simp [ModeInfo.ofJsonWithin])
  | succ bound ih =>
    obtain ⟨c, ⟨rfl, mode, hmode, rfl⟩ | ⟨rfl, hmulti⟩⟩ := modeOfJson_cases h
    · have hc := singleOfJson_depth hmode
      have hnesting : (ModeInfo.single mode).toProto.nesting = 1 := rfl
      simp only [depth, depthFields, hnesting]
      omega
    · obtain ⟨signed, members, rfl, list, hlist, hmembers⟩ := multiOfJson_inside hmulti
      have hpos := depth_pos_of_list hmembers
      have hlevels : ∀ l ∈ 0 :: members.map (fun m => m.toProto.nesting),
          3 * l + 4 ≤ 2 * c.depth := by
        refine List.forall_mem_cons.2 ⟨by omega, ?_⟩
        intro l hl
        obtain ⟨member, hmember, rfl⟩ := List.mem_map.1 hl
        obtain ⟨item, hitem, hfound⟩ := inside_of_list hmembers member hmember
        have hle := ih hfound
        omega
      have hinner : Proto.below (0 :: members.map fun m => m.toProto.nesting) ≤
          (2 * c.depth - 1) / 3 := below_le_iff.2 fun l hl => by
        have hl := hlevels l hl
        omega
      have houter : (ModeInfo.multi signed members).toProto.nesting ≤ (2 * c.depth + 2) / 3 := by
        rw [multi_nesting]
        refine below_le_iff.2 fun l hl => ?_
        obtain rfl := List.mem_singleton.1 hl
        have hzero := hlevels 0 (by simp)
        omega
      simp only [depth, depthFields]
      omega

lemma signerOfJson_inside {j : Json} {s : SignerInfo} (h : SignerInfo.ofJson j = .ok s) :
    Inside ModeInfo.ofJson j s.mode := by
  obtain ⟨⟨publicKey, mode, sequence⟩, hrecord, h⟩ := bind_eq_ok.1 h
  obtain ⟨mode, hmode, h⟩ := bind_eq_ok.1 h
  obtain ⟨sequence, hsequence, h⟩ := bind_eq_ok.1 h
  obtain rfl := pure_eq_ok.1 h
  refine record_inside (fun s => s.2.1) _ ?_ rfl hrecord (require_eq_ok.1 hmode)
  grind [slot, map_eq_ok]

lemma signer_nesting {j : Json} {s : SignerInfo} (h : SignerInfo.ofJson j = .ok s) :
    3 * s.toProto.nesting ≤ 2 * j.depth + 3 := by
  obtain ⟨c, hc, hmode⟩ := signerOfJson_inside h
  have hle := mode_nesting hmode
  have hlevels : s.toProto.nesting ≤ (2 * j.depth + 3) / 3 := by
    refine below_le_iff.2 fun l hl => ?_
    rcases List.mem_append.1 hl with hl | hl
    · obtain ⟨_, -, rfl⟩ := List.mem_map.1 hl
      omega
    · obtain rfl := List.mem_singleton.1 hl
      omega
  omega

lemma authOfJson_inside {j : Json} {a : AuthInfo} (h : AuthInfo.ofJson j = .ok a) :
    Inside (Json.list SignerInfo.ofJson) j a.signers := by
  obtain ⟨⟨signers, fee⟩, hrecord, h⟩ := bind_eq_ok.1 h
  obtain ⟨signers, hsigners, h⟩ := bind_eq_ok.1 h
  obtain ⟨fee, hfee, h⟩ := bind_eq_ok.1 h
  obtain rfl := pure_eq_ok.1 h
  refine record_inside (fun s => s.1) _ ?_ rfl hrecord (require_eq_ok.1 hsigners)
  grind [slot, map_eq_ok]

lemma auth_nesting {j : Json} {a : AuthInfo} (h : AuthInfo.ofJson j = .ok a) :
    3 * a.toProto.nesting ≤ 2 * j.depth + 6 := by
  obtain ⟨c, hc, hlist⟩ := authOfJson_inside h
  have hlevels : a.toProto.nesting ≤ (2 * j.depth + 6) / 3 := by
    refine below_le_iff.2 fun l hl => ?_
    rcases List.mem_append.1 hl with hl | hl
    · obtain ⟨p, hp, rfl⟩ := List.mem_map.1 hl
      obtain ⟨s, hs, rfl⟩ := List.mem_map.1 hp
      obtain ⟨d, hd, hsigner⟩ := inside_of_list hlist s hs
      have hle := signer_nesting hsigner
      omega
    · obtain rfl := List.mem_singleton.1 hl
      have hfee : a.fee.toProto.nesting ≤ 1 := below_le_iff.2 fun l hl => by
        obtain ⟨_, -, rfl⟩ := List.mem_map.1 hl
        omega
      omega
  omega

/-- A message read from the fields of a known kind is of that kind. -/
lemma kind?_of_ofFields {kind : Message.Kind} {j : Json} {m : Message}
    (h : Message.ofFields kind j = .ok m) : m.kind? = some kind := by
  cases kind <;>
    simp only [Message.ofFields, Message.stakeOfJson, bind_eq_ok, pure_eq_ok] at h <;> grind [Message.kind?]

/-- A message in a document is known or is kept in JSON. -/
lemma known_of_decode {j : Json} {m : Message} (h : Message.decode j = .ok m) :
    (∃ kind, m.kind? = some kind) ∨ ∃ value, m = .json value := by
  obtain ⟨value, -, h⟩ := bind_eq_ok.1 h
  have hjson := mapError_eq_ok.1 h
  unfold Message.ofJson at hjson
  split at hjson
  · exact absurd hjson (by simp)
  · split at hjson
    next kind _ =>
      exact .inl ⟨kind, kind?_of_ofFields (mapError_eq_ok.1 (mapError_eq_ok.1 hjson))⟩
    next =>
      obtain rfl := Except.ok.inj hjson
      exact .inr ⟨value, rfl⟩

lemma bodyOfJson_inside {j : Json} {b : TxBody} (h : TxBody.ofJson j = .ok b) :
    Inside (Json.list Message.decode) j b.messages := by
  obtain ⟨⟨messages, memo, timeoutHeight⟩, hrecord, h⟩ := bind_eq_ok.1 h
  obtain ⟨messages, hmessages, h⟩ := bind_eq_ok.1 h
  obtain rfl := pure_eq_ok.1 h
  refine record_inside (fun s => s.1) _ ?_ rfl hrecord (require_eq_ok.1 hmessages)
  grind [slot, map_eq_ok]

lemma txOfJson_inside {j : Json} {t : Tx} (h : Tx.ofJson j = .ok t) :
    Inside TxBody.ofJson j t.body ∧ Inside AuthInfo.ofJson j t.authInfo := by
  obtain ⟨⟨body, authInfo, signatures⟩, hrecord, h⟩ := bind_eq_ok.1 h
  obtain ⟨body, hbody, h⟩ := bind_eq_ok.1 h
  obtain ⟨authInfo, hauth, h⟩ := bind_eq_ok.1 h
  obtain ⟨signatures, -, h⟩ := bind_eq_ok.1 h
  obtain rfl := pure_eq_ok.1 h
  constructor
  · refine record_inside (fun s => s.1) _ ?_ rfl hrecord (require_eq_ok.1 hbody)
    grind [slot, map_eq_ok]
  · refine record_inside (fun s => s.2.1) _ ?_ rfl hrecord (require_eq_ok.1 hauth)
    grind [slot, map_eq_ok]

lemma tx_nesting {j : Json} {t : Tx} {p : Proto.Tx} (h : Tx.ofJson j = .ok t)
    (hp : t.toProto = .ok p) : 3 * p.nesting ≤ 2 * j.depth + 9 := by
  obtain ⟨c, hc, hauth⟩ := (txOfJson_inside h).2
  have hle := auth_nesting hauth
  obtain ⟨body, -, rfl⟩ := map_eq_ok.1 hp
  have hlevels : Proto.Tx.nesting ⟨some body, some t.authInfo.toProto, t.signatures⟩ ≤
      (2 * j.depth + 9) / 3 := by
    refine below_le_iff.2 fun l hl => ?_
    rcases List.mem_append.1 hl with hl | hl
    · obtain rfl := List.mem_singleton.1 hl
      have hbody : body.nesting ≤ 1 := below_le_iff.2 fun l hl => by
        obtain ⟨_, -, rfl⟩ := List.mem_map.1 hl
        omega
      omega
    · obtain rfl := List.mem_singleton.1 hl
      omega
  omega

/-- When a transaction in a document can be encoded, all its messages are known. -/
lemma known_messages {j : Json} {t : Tx} {b : Bytes} (h : Tx.ofJson j = .ok t)
    (hb : t.toBytes = .ok b) : ∀ m ∈ t.body.messages, ∃ kind, m.kind? = some kind := by
  intro m hm
  obtain ⟨c, -, hbody⟩ := (txOfJson_inside h).1
  obtain ⟨list, -, hlist⟩ := bodyOfJson_inside hbody
  obtain ⟨item, -, hmessage⟩ := inside_of_list hlist m hm
  rcases known_of_decode hmessage with hknown | ⟨value, rfl⟩
  · exact hknown
  · obtain ⟨e, he⟩ := (toBytes_error_iff t).2 ⟨value, hm⟩
    exact absurd (hb.symm.trans he) (by simp)

lemma decodeText_eq_ok {α : Type} {decode : Decoder α} {s : String} {a : α}
    (h : decodeText decode s = .ok a) : decode (Json.read s).1 = .ok a := by
  obtain ⟨b, hb, h⟩ := bind_eq_ok.1 h
  split at h
  · split at h
    · obtain rfl := Except.ok.inj h
      exact mapError_eq_ok.1 hb
    · exact absurd h (by simp)
  · exact absurd h (by simp)

lemma length_le_chars (b : Bytes) : b.length ≤ (Base64.chars b).length := by
  induction b using Base64.chars.induct with
  | case1 => simp
  | case2 a => simp [Base64.chars]
  | case3 a b => simp [Base64.chars]
  | case4 a b c rest ih =>
    simp only [Base64.chars, List.length_cons]
    omega

lemma toJson_of_known {t : Tx} (h : ∀ m ∈ t.body.messages, ∃ kind, m.kind? = some kind) :
    ∃ j, t.toJson = .ok j := by
  cases hj : t.toJson with
  | ok j => exact ⟨j, rfl⟩
  | error e =>
    obtain ⟨any, hany⟩ := (txToJson_error_iff t).1 ⟨e, hj⟩
    obtain ⟨kind, hkind⟩ := h _ hany
    exact absurd hkind (by simp [Message.kind?])

/-- A transaction that was read from a text and can be encoded is read back from its encoding, and
has a JSON form: its messages are all known, and they nest no deeper than a reader follows. The bound
on the length holds for every text that fits into the memory of a machine with 64-bit addresses. -/
theorem tx_text_round_trip {s e : String} {t : Tx} (ht : Json.decodeText Tx.ofJson s = .ok t)
    (he : t.toBase64 = .ok e) (hsize : e.length < 2 ^ 64) :
    Tx.ofBase64 e = .ok t ∧ (∃ j, t.toJson = .ok j) ∧
      (∃ p, t.toProto = .ok p ∧ p.nesting ≤ Wire.maxNesting) ∧
      ∀ m ∈ t.body.messages, ∃ kind, m.kind? = some kind := by
  have hread := decodeText_eq_ok ht
  obtain ⟨b, hb, rfl⟩ := map_eq_ok.1 he
  have hknown := known_messages hread hb
  have hcanonical : ∀ m ∈ t.body.messages, m.Canonical := fun m hm => by
    obtain ⟨kind, hkind⟩ := hknown m hm
    exact canonical_of_kind hkind
  obtain ⟨p, hp, hback⟩ := ofProto_toProto hcanonical
  have hbytes : b = p.bytes := by
    rw [Tx.toBytes, hp] at hb
    exact (Except.ok.inj hb).symm
  subst hbytes
  have hdepth := read_depth s
  have hroom : p.nesting ≤ Wire.maxNesting := by
    have hnesting := tx_nesting hread hp
    unfold maxDepth at hdepth
    unfold Wire.maxNesting
    omega
  have hfits : Fits p.bytes := by
    rw [Base64.write, String.length_ofList] at hsize
    exact lt_of_le_of_lt (length_le_chars p.bytes) hsize
  have htext := ofBase64_write (ofBytes_bytes hback hroom hfits)
    (List.forall_mem_nil fun c => Text.isBlank c) (List.forall_mem_nil fun c => Text.isBlank c)
  refine ⟨?_, toJson_of_known hknown, ⟨p, hp, hroom⟩, hknown⟩
  simpa using htext

/-- A transaction that a member of a key made of others has signed, with its records as arrays and a
number out of its quotes. -/
def cosignedText : String :=
  "[[[\x7b\"@type\":\"/cosmos.bank.v1beta1.MsgSend\",\"from_address\":\"a\",\"to_address\":\"\",\"amount\":[]\x7d]],
    [[[null, \x7b\"multi\":[[1,\"gA==\"],[\x7b\"single\":[\"SIGN_MODE_DIRECT\"]\x7d]]\x7d, \"4\"]],
      [[], 200, \"\", \"\"]],
    [\"BQ\"]]"

def cosignedTx : Tx :=
  ⟨⟨[.send "a" "" Coins.empty], "", 0⟩,
    ⟨[⟨none, .multi ⟨1, [0x80]⟩ [.single .direct], 4⟩], Fee.ofGas 200 Coins.empty⟩, [[5]]⟩

theorem cosignedText_round_trip :
    Json.decodeText Tx.ofJson cosignedText = .ok cosignedTx ∧
      ∃ e, cosignedTx.toBase64 = .ok e ∧ e.length < 2 ^ 64 ∧ Tx.ofBase64 e = .ok cosignedTx := by
  have hread : Json.decodeText Tx.ofJson cosignedText = .ok cosignedTx := by cbv
  obtain ⟨e, he, hsize⟩ : ∃ e, cosignedTx.toBase64 = .ok e ∧ e.length < 2 ^ 64 := by
    refine ⟨_, rfl, ?_⟩
    decide +kernel
  exact ⟨hread, e, he, hsize, (tx_text_round_trip hread he hsize).1⟩

end CosmosClient.Proofs
