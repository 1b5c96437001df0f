import Mathlib
import CosmosClient.Proofs.DecodingDepth
import CosmosClient.Proofs.TxEncoding

/-!
# Decoded transactions encoded again

Whatever bytes a transaction was decoded from, it can be encoded, and the encoding is decoded to the
same transaction as long as it nests no deeper than readers follow. It nests one level deeper exactly
when a key made of others comes without its bits on the last level: empty ones are written below it.
-/

namespace CosmosClient.Proto

/-- Whether each mode of several keys comes with its bits. -/
inductive ModeInfo.BitsGiven : ModeInfo → Prop
  | single (mode : Int32) : BitsGiven (.single mode)
  | multi (bits : BitArray) {ms : List ModeInfo} (h : ∀ m ∈ ms, BitsGiven m) :
      BitsGiven (.multi (some bits) ms)

/-- Whether each mode of several keys in a transaction comes with its bits. -/
def Tx.BitsGiven (t : Tx) : Prop :=
  ∀ a ∈ t.authInfo, ∀ s ∈ a.signerInfos, ∀ m ∈ s.modeInfo, m.BitsGiven

/-- A part for several keys without its bits, so many levels below the mode. -/
inductive ModeInfo.BareAt : Nat → ModeInfo → Prop
  | here (ms : List ModeInfo) : BareAt 1 (.multi none ms)
  | member (bits : Option BitArray) {ms : List ModeInfo} {m : ModeInfo} {n : Nat} (hm : m ∈ ms)
      (h : BareAt n m) : BareAt (n + 2) (.multi bits ms)

/-- A part for several keys without its bits, so many levels below a transaction. The modes of signers
lie three levels down. -/
def Tx.BareAt (level : Nat) (t : Tx) : Prop :=
  ∃ a ∈ t.authInfo, ∃ s ∈ a.signerInfos, ∃ m ∈ s.modeInfo, m.BareAt (level - 3)

/-- Members of members of a key, all without bits. -/
def ModeInfo.bare : Nat → ModeInfo
  | 0 => .multi none []
  | n + 1 => .multi none [bare n]

end CosmosClient.Proto

namespace CosmosClient.Proofs
open Wire

/-- A message read for a known kind is of that kind. -/
lemma kind?_of_ofValue {kind : Message.Kind} {url : String} {value : Bytes} {m : Message}
    (h : Message.ofValue kind url value = .ok m) : m.kind? = some kind := by
  cases kind <;> simp only [Message.ofValue, bind_eq_ok, pure_eq_ok] at h <;> grind [Message.kind?]

lemma canonical_of_ofAny {any : Proto.Any} {m : Message} (h : Message.ofAny any = .ok m) :
    m.Canonical := by
  unfold Message.ofAny at h
  split at h
  next kind _ => exact canonical_of_kind (kind?_of_ofValue h)
  next hkind =>
    obtain rfl := Except.ok.inj h
    exact hkind

lemma ofNumber_eq_ok {n : Int32} {mode : SignMode} (h : SignMode.ofNumber n = .ok mode) :
    mode.number = n := by
  unfold SignMode.ofNumber at h
  split at h
  next found hfound =>
    obtain rfl := Except.ok.inj h
    simpa using List.find?_some hfound
  next => exact absurd h (by simp)

lemma ofProtos_eq_mapM (ps : List Proto.ModeInfo) :
    ModeInfo.ofProtos ps = ps.mapM ModeInfo.ofProto := by
  induction ps with
  | nil => rfl
  | cons p ps ih =>
    rw [ModeInfo.ofProtos, ih, List.mapM_cons]
    cases ModeInfo.ofProto p <;> rfl

/-- What a mode of several keys is read from. -/
lemma multiOfProto_eq_ok {bits : Option Proto.BitArray} {ps : List Proto.ModeInfo} {m : ModeInfo}
    (h : ModeInfo.ofProto (.multi bits ps) = .ok m) :
    ∃ ms, ps.mapM ModeInfo.ofProto = .ok ms ∧
      m.toProto = .multi (some (bits.getD {})) (ms.map ModeInfo.toProto) := by
  rw [ModeInfo.ofProto] at h
  obtain ⟨ms, hms, rfl⟩ := map_eq_ok.1 h
  rw [ofProtos_eq_mapM] at hms
  refine ⟨ms, hms, ?_⟩
  rw [ModeInfo.toProto, toProtos_eq_map]
  cases bits <;> rfl

lemma multi_nesting_pos (bits : Option Proto.BitArray) (ms : List Proto.ModeInfo) :
    0 < (Proto.ModeInfo.multi bits ms).nesting :=
  lt_max_of_lt_left (Nat.succ_pos _)

lemma bareAt_one_iff {bits : Option Proto.BitArray} {ms : List Proto.ModeInfo} :
    (Proto.ModeInfo.multi bits ms).BareAt 1 ↔ bits = none := by
  constructor
  · intro h
    cases h
    rfl
  · rintro rfl
    exact .here ms

lemma bareAt_member_iff {bits : Option Proto.BitArray} {ms : List Proto.ModeInfo} {n : Nat} :
    (Proto.ModeInfo.multi bits ms).BareAt (n + 2) ↔ ∃ m ∈ ms, m.BareAt n := by
  constructor
  · intro h
    cases h with
    | member _ hm h => exact ⟨_, hm, h⟩
  · rintro ⟨m, hm, h⟩
    exact .member bits hm h

lemma le_nesting_of_bareAt {p : Proto.ModeInfo} {n : Nat} (h : p.BareAt n) : n ≤ p.nesting := by
  induction h with
  | here ms => exact multi_nesting_pos none ms
  | @member bits ms m n hm _ ih =>
    obtain ⟨k, hk⟩ := Nat.exists_eq_add_one.2 (multi_nesting_pos bits ms)
    have hlt := (multiNesting_le.1 hk.le).2 m hm
    omega

lemma not_bareAt_of_bitsGiven {p : Proto.ModeInfo} {n : Nat} (hbits : p.BitsGiven) :
    ¬p.BareAt n := by
  intro h
  induction h with
  | here ms => cases hbits
  | member _ hm _ ih =>
    cases hbits with
    | multi _ hms => exact ih (hms _ hm)

/-- A mode is written one level deeper than there was room exactly when bits are missing on the last
level. -/
lemma mode_nesting_iff {p : Proto.ModeInfo} {m : ModeInfo} {n : Nat} (hroom : p.nesting ≤ n)
    (h : ModeInfo.ofProto p = .ok m) : m.toProto.nesting ≤ n ↔ ¬p.BareAt n := by
  match p with
  | .unset => exact absurd h (by simp [ModeInfo.ofProto])
  | .single k =>
    obtain ⟨mode, -, rfl⟩ := map_eq_ok.1 h
    exact iff_of_true hroom (by rintro ⟨⟩)
  | .multi bits ps =>
    obtain ⟨ms, hms, hm⟩ := multiOfProto_eq_ok h
    obtain ⟨k, rfl⟩ := Nat.exists_eq_add_one.2 ((multi_nesting_pos bits ps).trans_le hroom)
    obtain ⟨hbits, hmembers⟩ := multiNesting_le.1 hroom
    rw [hm, multiNesting_le, List.forall_mem_map]
    cases k with
    | zero =>
      -- there is no room for bits, so none were read, and the empty ones take the next level
      have hnone : bits = none := Option.eq_none_iff_forall_not_mem.2 fun b hb => (hbits b hb).ne rfl
      rw [bareAt_one_iff]
      simp [hnone]
    | succ k =>
      have hiff : (∀ member ∈ ms, member.toProto.nesting < k + 1) ↔ ∀ q ∈ ps, ¬q.BareAt k := by
        refine forall_mem_iff_of_mapM_eq_ok hms fun q hq member hof => ?_
        rw [Nat.lt_succ_iff]
        exact mode_nesting_iff (Nat.le_of_lt_succ (hmembers q hq)) hof
      rw [hiff, bareAt_member_iff]
      simp
termination_by sizeOf p

/-- A mode with all its bits is written as it was read. -/
lemma mode_settled {p : Proto.ModeInfo} {m : ModeInfo} (hbits : p.BitsGiven)
    (h : ModeInfo.ofProto p = .ok m) : m.toProto = p := by
  induction hbits generalizing m with
  | single n =>
    obtain ⟨mode, hmode, rfl⟩ := map_eq_ok.1 h
    rw [ModeInfo.toProto, ofNumber_eq_ok hmode]
  | @multi bits ps _ ih =>
    obtain ⟨ms, hms, hm⟩ := multiOfProto_eq_ok h
    rw [hm, Option.getD_some, map_of_mapM_eq_ok hms fun q hq m hm => ih q hq hm]

lemma signerOfProto_eq_ok {p : Proto.SignerInfo} {s : SignerInfo}
    (h : SignerInfo.ofProto p = .ok s) :
    ∃ m, p.modeInfo = some m ∧ p.publicKey.mapM PublicKey.ofAny = .ok s.publicKey ∧
      ModeInfo.ofProto m = .ok s.mode ∧ p.sequence = s.sequence := by
  obtain ⟨key, hkey, h⟩ := bind_eq_ok.1 h
  split at h
  next => exact absurd h (by simp)
  next m hm =>
    obtain ⟨mode, hmode, rfl⟩ := map_eq_ok.1 h
    exact ⟨m, hm, hkey, hmode, rfl⟩

lemma authOfProto_eq_ok {p : Proto.AuthInfo} {a : AuthInfo} (h : AuthInfo.ofProto p = .ok a) :
    ∃ f, p.fee = some f ∧ p.signerInfos.mapM SignerInfo.ofProto = .ok a.signers ∧
      Fee.ofProto f = .ok a.fee := by
  obtain ⟨signers, hsigners, h⟩ := bind_eq_ok.1 h
  split at h
  next => exact absurd h (by simp)
  next f hf =>
    obtain ⟨fee, hfee, rfl⟩ := map_eq_ok.1 h
    exact ⟨f, hf, hsigners, hfee⟩

lemma bodyOfProto_eq_ok {p : Proto.TxBody} {b : TxBody} (h : TxBody.ofProto p = .ok b) :
    p.messages.mapM Message.ofAny = .ok b.messages ∧ p.memo = b.memo ∧
      p.timeoutHeight = b.timeoutHeight := by
  obtain ⟨messages, hmessages, rfl⟩ := map_eq_ok.1 h
  exact ⟨hmessages, rfl, rfl⟩

lemma txOfProto_eq_ok {q : Proto.Tx} {t : Tx} (h : Tx.ofProto q = .ok t) :
    ∃ b a, q = ⟨some b, some a, t.signatures⟩ ∧ TxBody.ofProto b = .ok t.body ∧
      AuthInfo.ofProto a = .ok t.authInfo := by
  obtain ⟨body, authInfo, signatures⟩ := q
  cases body with
  | none => exact absurd h (by simp [Tx.ofProto])
  | some b =>
    obtain ⟨body, hbody, h⟩ := bind_eq_ok.1 h
    cases authInfo with
    | none => exact absurd h (by simp)
    | some a =>
      obtain ⟨auth, hauth, rfl⟩ := map_eq_ok.1 h
      exact ⟨b, a, rfl, hbody, hauth⟩

lemma canonical_of_ofProto {q : Proto.Tx} {t : Tx} (h : Tx.ofProto q = .ok t) :
    ∀ m ∈ t.body.messages, m.Canonical := by
  intro m hm
  obtain ⟨b, a, -, hbody, -⟩ := txOfProto_eq_ok h
  obtain ⟨any, -, hany⟩ := mem_of_mapM_eq_ok (bodyOfProto_eq_ok hbody).1 m hm
  exact canonical_of_ofAny hany

/-- The modes of signers lie three levels down. -/
lemma mode_nesting_le {q : Proto.Tx} {n : Nat} (h : q.nesting ≤ n + 3) :
    ∀ a ∈ q.authInfo, ∀ s ∈ a.signerInfos, ∀ m ∈ s.modeInfo, m.nesting ≤ n := by
  intro a ha s hs m hm
  have hauth : a.nesting ≤ n + 2 := Nat.le_of_lt_succ ((txNesting_le.1 h).2 a ha)
  have hsigner : s.nesting ≤ n + 1 := Nat.le_of_lt_succ ((authNesting_le.1 hauth).1 s hs)
  exact Nat.le_of_lt_succ ((signerNesting_le.1 hsigner).2 m hm)

/-- Nothing in a transaction lies deeper than its modes take it. -/
lemma nesting_le_iff_modes {t : Tx} {p : Proto.Tx} {n : Nat} (hp : t.toProto = .ok p) :
    p.nesting ≤ n + 3 ↔ ∀ s ∈ t.authInfo.signers, s.mode.toProto.nesting ≤ n := by
  obtain ⟨body, -, rfl⟩ := map_eq_ok.1 hp
  refine ⟨fun h s hs => mode_nesting_le h _ rfl _ (List.mem_map_of_mem hs) _ rfl, fun h => ?_⟩
  have hbody : body.nesting ≤ 1 := bodyNesting_le.2 fun _ _ => Nat.one_pos
  have hfee : t.authInfo.fee.toProto.nesting ≤ 1 := feeNesting_le.2 fun _ _ => Nat.one_pos
  have hsigners : ∀ s ∈ t.authInfo.signers, s.toProto.nesting ≤ n + 1 := by
    intro s hs
    rw [signerNesting_le]
    refine ⟨fun _ _ => Nat.succ_pos n, fun m hm => ?_⟩
    obtain rfl := Option.some.inj hm
    exact Nat.lt_succ_of_le (h s hs)
  have hauth : t.authInfo.toProto.nesting ≤ n + 2 := by
    rw [authNesting_le]
    refine ⟨List.forall_mem_map.2 fun s hs => Nat.lt_succ_of_le (hsigners s hs), fun f hf => ?_⟩
    obtain rfl := Option.some.inj hf
    omega
  rw [txNesting_le]
  constructor
  · intro b hb
    obtain rfl := Option.some.inj hb
    omega
  · intro a ha
    obtain rfl := Option.some.inj ha
    exact Nat.lt_succ_of_le hauth

/-- A decoded transaction is written one level deeper than there was room exactly when bits are
missing on the last level. -/
lemma tx_nesting_iff {q p : Proto.Tx} {t : Tx} {n : Nat} (hroom : q.nesting ≤ n + 3)
    (hof : Tx.ofProto q = .ok t) (hp : t.toProto = .ok p) :
    p.nesting ≤ n + 3 ↔ ¬q.BareAt (n + 3) := by
  obtain ⟨b, a, rfl, -, hauth⟩ := txOfProto_eq_ok hof
  obtain ⟨f, -, hsigners, -⟩ := authOfProto_eq_ok hauth
  have hiff : (∀ s ∈ t.authInfo.signers, s.mode.toProto.nesting ≤ n) ↔
      ∀ r ∈ a.signerInfos, ∀ m ∈ r.modeInfo, ¬m.BareAt n := by
    refine forall_mem_iff_of_mapM_eq_ok hsigners fun r hr s hs => ?_
    obtain ⟨m, hm, -, hmode, -⟩ := signerOfProto_eq_ok hs
    rw [mode_nesting_iff (mode_nesting_le hroom a rfl r hr m hm) hmode, hm]
    simp
  rw [nesting_le_iff_modes hp, hiff]
  simp [Proto.Tx.BareAt]

lemma not_bareAt_of_nesting_le {q : Proto.Tx} {n : Nat} (h : q.nesting ≤ n + 3) :
    ¬q.BareAt (n + 4) := by
  rintro ⟨a, ha, s, hs, m, hm, hbare⟩
  exact absurd (le_nesting_of_bareAt hbare) (mode_nesting_le h a ha s hs m hm).not_gt

/-- What is decoded nests no deeper than readers follow. -/
lemma nesting_of_decode {b : Bytes} {q : Proto.Tx} (h : Proto.decode Proto.Tx.merge {} b = .ok q) :
    q.nesting ≤ maxNesting := by
  obtain ⟨⟨q, rest⟩, hmerge, rfl⟩ := map_eq_ok.1 h
  exact tx_preserves maxNesting _ _ _ _ _ hmerge (Nat.zero_le _)

lemma txOfBytes_eq_ok {b : Bytes} {t : Tx} :
    Tx.ofBytes b = .ok t ↔
      ∃ q, Proto.decode Proto.Tx.merge {} b = .ok q ∧ Tx.ofProto q = .ok t := by
  simp only [Tx.ofBytes, bind_eq_ok, mapError_eq_ok]

/-- The encoding of a transaction is read back exactly when readers follow all its levels. -/
lemma ofBytes_bytes_iff {t : Tx} {p : Proto.Tx} (hcanonical : ∀ m ∈ t.body.messages, m.Canonical)
    (hp : t.toProto = .ok p) (hfits : Fits p.bytes) :
    Tx.ofBytes p.bytes = .ok t ↔ p.nesting ≤ maxNesting := by
  obtain ⟨p, hp', hback⟩ := ofProto_toProto hcanonical
  obtain rfl := Except.ok.inj (hp.symm.trans hp')
  refine ⟨?_, fun hroom => ofBytes_bytes hback hroom hfits⟩
  intro h
  obtain ⟨q, hq, -⟩ := txOfBytes_eq_ok.1 h
  obtain rfl := eq_of_decode tx_deepens (fun room hroom => reads_tx _ hroom hfits) hq
  exact nesting_of_decode hq

/-- Every decoded transaction can be encoded, and the encoding nests one level deeper at most than
readers follow. It is decoded to the same transaction exactly when it nests no deeper than they do,
and so exactly when no key made of others came without its bits on the last level. -/
theorem decoded_reencodes {b : Bytes} {t : Tx} (h : Tx.ofBytes b = .ok t) :
    ∃ q p, Proto.decode Proto.Tx.merge {} b = .ok q ∧ t.toProto = .ok p ∧ t.toBytes = .ok p.bytes ∧
      p.nesting ≤ maxNesting + 1 ∧ (p.nesting ≤ maxNesting ↔ ¬q.BareAt maxNesting) ∧
      (q.BitsGiven → p.nesting ≤ maxNesting) ∧
      (Fits p.bytes → (Tx.ofBytes p.bytes = .ok t ↔ p.nesting ≤ maxNesting)) := by
  obtain ⟨q, hq, hof⟩ := txOfBytes_eq_ok.1 h
  have hcanonical := canonical_of_ofProto hof
  obtain ⟨p, hp, -⟩ := ofProto_toProto hcanonical
  have hroom : q.nesting ≤ 97 + 3 := nesting_of_decode hq
  have hiff : p.nesting ≤ 97 + 3 ↔ ¬q.BareAt (97 + 3) := tx_nesting_iff hroom hof hp
  refine ⟨q, p, hq, hp, map_eq_ok.2 ⟨p, hp, rfl⟩, ?_, hiff, ?_, ofBytes_bytes_iff hcanonical hp⟩
  · exact (tx_nesting_iff (n := 98) (Nat.le_succ_of_le hroom) hof hp).2 (not_bareAt_of_nesting_le hroom)
  · intro hbits
    refine hiff.2 ?_
    rintro ⟨a, ha, s, hs, m, hm, hbare⟩
    exact not_bareAt_of_bitsGiven (hbits a ha s hs m hm) hbare

/-- A transaction with an unknown field, its body behind other fields and a mode without bits. -/
def looseBytes : Bytes :=
  [26, 1, 5, 72, 1, 18, 8, 10, 4, 18, 2, 18, 0, 18, 0, 10, 0]

def looseTx : Tx :=
  ⟨⟨[], "", 0⟩, ⟨[⟨none, .multi BitArray.empty [], 0⟩], Fee.ofGas 0 Coins.empty⟩, [[5]]⟩

theorem looseTx_reencoded : ∃ b, Tx.ofBytes looseBytes = .ok looseTx ∧ looseTx.toBytes = .ok b ∧
    b ≠ looseBytes ∧ Tx.ofBytes b = .ok looseTx := by
  have hread : Tx.ofBytes looseBytes = .ok looseTx := by cbv
  obtain ⟨q, p, hq, hp, hbytes, -, hdeeper, -, hback⟩ := decoded_reencodes hread
  have hbare : ¬q.BareAt maxNesting := by
    cases hq
    rintro ⟨a, ⟨⟩, s, hs, m, hm, hbare⟩
    obtain rfl := List.mem_singleton.1 hs
    obtain rfl := Option.some.inj hm
    -- its only mode lacks bits, but that lies far above the last level
    cases hbare with
    | member _ hm _ => cases hm
  have hroom : p.nesting ≤ maxNesting := hdeeper.2 hbare
  cases hp
  refine ⟨_, hread, hbytes, ?_, (hback ?_).2 hroom⟩
  · decide +kernel
  · unfold Fits
    decide +kernel

/-- A transaction whose signer has as many modes within modes as readers follow, none with bits. -/
def bareTx : Proto.Tx := ⟨some {}, some ⟨[⟨none, some (.bare 48), 0⟩], some {}⟩, [[]]⟩

theorem bareTx_not_read_back : ∃ t b, Tx.ofBytes bareTx.bytes = .ok t ∧ t.toBytes = .ok b ∧
    Tx.ofBytes b ≠ .ok t := by
  obtain ⟨t, ht⟩ : ∃ t, Tx.ofProto bareTx = .ok t := ⟨_, rfl⟩
  have hread : Tx.ofBytes bareTx.bytes = .ok t := by
    refine ofBytes_bytes (fun _ => ht) ?_ ?_
    · decide +kernel
    · unfold Fits
      decide +kernel
  obtain ⟨p, hp, -⟩ := ofProto_toProto (canonical_of_ofProto ht)
  refine ⟨t, p.bytes, hread, map_eq_ok.2 ⟨p, hp, rfl⟩, ?_⟩
  have hdeep : Fits p.bytes ∧ ¬p.nesting ≤ maxNesting := by
    cases ht
    cases hp
    unfold Fits
    decide +kernel
  rw [Ne, ofBytes_bytes_iff (canonical_of_ofProto ht) hp hdeep.1]
  exact hdeep.2

end CosmosClient.Proofs
