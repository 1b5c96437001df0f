import Mathlib
import CosmosClient.MultiSignature
import CosmosClient.Proofs.Bits
import CosmosClient.Proofs.MessageReading

/-!
# Signatures of members over whole runs

The bits and the signatures are kept in step by any run of calls: they are always those of the latest
signature of each member, in the order of the members. So no place is ever missed, and the order in
which members sign does not matter.
-/

namespace CosmosClient.MultiSignature

/-- Records the signature of a member, where reaching beyond the last byte of the bits or beyond the
signatures has no result. -/
def strictAdd? (m : MultiSignature) (member : PublicKey) (signature : Bytes) :
    Option (Except Failure MultiSignature) :=
  match m.members.findIdx? fun key => key == member with
  | none => some (.error (Failure.text "Public key is not a member of this multisig"))
  | some i => do
    let place ← m.signed.strictCountBefore? i
    if ← m.signed.strictGet? i then
      if place < m.signatures.length then
        return .ok { m with signatures := m.signatures.set place signature }
      else none
    else
      let signed ← m.signed.strictSet? i true
      if place ≤ m.signatures.length then
        return .ok { m with signed := signed, signatures := m.signatures.insertIdx place signature }
      else none

/-- The signatures after one call; a call that fails changes nothing. -/
def step (m : MultiSignature) (call : PublicKey × Bytes) : MultiSignature :=
  match m.add call.1 call.2 with
  | .ok next => next
  | .error _ => m

/-- The signatures after calls in order. -/
def run (m : MultiSignature) (calls : List (PublicKey × Bytes)) : MultiSignature :=
  calls.foldl step m

end CosmosClient.MultiSignature

namespace CosmosClient.Proofs
open MultiSignature

/-- The latest signature given with a key. -/
def latest (calls : List (PublicKey × Bytes)) (key : PublicKey) : Option Bytes :=
  ((calls.filter fun call => call.1 == key).getLast?).map (·.2)

/-- The latest signature for the member at a place; a key stands for its first place only. -/
def latestAt (members : List PublicKey) (calls : List (PublicKey × Bytes)) (i : Nat) :
    Option Bytes :=
  members[i]?.bind fun key =>
    if members.findIdx? (fun other => other == key) = some i then latest calls key else none

lemma latest_append (calls : List (PublicKey × Bytes)) (call : PublicKey × Bytes)
    (key : PublicKey) :
    latest (calls ++ [call]) key = if call.1 = key then some call.2 else latest calls key := by
  unfold latest
  by_cases h : call.1 = key
  · simp [h]
  · simp [h]

lemma latest_isSome {calls : List (PublicKey × Bytes)} {key : PublicKey} :
    (latest calls key).isSome ↔ ∃ call ∈ calls, call.1 = key := by
  rw [latest, Option.isSome_map, List.getLast?_isSome, ne_eq, List.filter_eq_nil_iff]
  simp

lemma getElem?_of_findIdx? {members : List PublicKey} {key : PublicKey} {i : Nat}
    (h : members.findIdx? (fun other => other == key) = some i) : members[i]? = some key := by
  obtain ⟨hlt, hkey, -⟩ := List.findIdx?_eq_some_iff_getElem.1 h
  rw [List.getElem?_eq_getElem hlt, beq_iff_eq.1 hkey]

lemma latestAt_append (members : List PublicKey) (calls : List (PublicKey × Bytes))
    (call : PublicKey × Bytes) (i : Nat) :
    latestAt members (calls ++ [call]) i =
      if members.findIdx? (fun key => key == call.1) = some i then some call.2
      else latestAt members calls i := by
  unfold latestAt
  by_cases h : members.findIdx? (fun key => key == call.1) = some i
  · rw [if_pos h, getElem?_of_findIdx? h, Option.bind_some, if_pos h, latest_append, if_pos rfl]
  · rw [if_neg h]
    cases hkey : members[i]? with
    | none => rfl
    | some key =>
      rw [Option.bind_some, Option.bind_some, latest_append]
      by_cases hcall : call.1 = key
      · rw [if_neg (hcall ▸ h), if_neg (hcall ▸ h)]
      · rw [if_neg hcall]

lemma latestAt_isSome {members : List PublicKey} {calls : List (PublicKey × Bytes)} {i : Nat} :
    (latestAt members calls i).isSome ↔
      ∃ call ∈ calls, members.findIdx? (fun key => key == call.1) = some i := by
  unfold latestAt
  constructor
  · intro h
    obtain ⟨signature, hsome⟩ := Option.isSome_iff_exists.1 h
    obtain ⟨key, -, hkey⟩ := Option.bind_eq_some_iff.1 hsome
    by_cases hfirst : members.findIdx? (fun other => other == key) = some i
    · rw [if_pos hfirst] at hkey
      obtain ⟨call, hcall, rfl⟩ := latest_isSome.1 (Option.isSome_iff_exists.2 ⟨_, hkey⟩)
      exact ⟨call, hcall, hfirst⟩
    · rw [if_neg hfirst] at hkey
      exact absurd hkey (by simp)
  · rintro ⟨call, hcall, hfirst⟩
    rw [getElem?_of_findIdx? hfirst, Option.bind_some, if_pos hfirst]
    exact latest_isSome.2 ⟨call, hcall, rfl⟩

/-- The latest signatures depend only on those of the members. -/
lemma latestAt_congr {members : List PublicKey} {calls others : List (PublicKey × Bytes)}
    (h : ∀ key ∈ members, latest calls key = latest others key) :
    latestAt members calls = latestAt members others := by
  funext i
  unfold latestAt
  cases hkey : members[i]? with
  | none => rfl
  | some key => rw [Option.bind_some, Option.bind_some, h key (List.mem_of_getElem? hkey)]

/-- What a run of calls leaves behind. -/
structure Collected (threshold : UInt32) (members : List PublicKey)
    (calls : List (PublicKey × Bytes)) (m : MultiSignature) : Prop where
  threshold_eq : m.threshold = threshold
  members_eq : m.members = members
  extra_eq : m.signed.extra = (BitArray.ofSize members.length).extra
  length_eq : m.signed.elems.length = (BitArray.ofSize members.length).elems.length
  bit_eq : ∀ i, bitOf m.signed.elems i = (latestAt members calls i).isSome
  signatures_eq : m.signatures = (List.range members.length).filterMap (latestAt members calls)

variable {threshold : UInt32} {members : List PublicKey} {calls : List (PublicKey × Bytes)}
  {m : MultiSignature}

lemma lt_of_findIdx? {key : PublicKey} {i : Nat}
    (h : members.findIdx? (fun other => other == key) = some i) : i < members.length :=
  (List.findIdx?_eq_some_iff_getElem.1 h).1

lemma Collected.size_eq (h : Collected threshold members calls m) :
    m.signed.size = members.length :=
  (size_congr h.extra_eq h.length_eq).trans (size_ofSize _)

lemma Collected.get_eq (h : Collected threshold members calls m) (i : Nat) :
    m.signed.get i = (latestAt members calls i).isSome := by
  by_cases hi : i < members.length
  · rw [get_eq_bitOf (h.size_eq.symm ▸ hi), h.bit_eq]
  · rw [get_eq_false (h.size_eq.symm ▸ Nat.not_lt.1 hi), latestAt,
      List.getElem?_eq_none (Nat.not_lt.1 hi)]
    rfl

/-- What is collected determines the state. -/
lemma Collected.unique {others : List (PublicKey × Bytes)} {n : MultiSignature}
    (h : Collected threshold members calls m) (hn : Collected threshold members others n)
    (hlatest : latestAt members calls = latestAt members others) : m = n := by
  have helems : m.signed.elems = n.signed.elems :=
    elems_ext (h.length_eq.trans hn.length_eq.symm) fun i => by rw [h.bit_eq, hn.bit_eq, hlatest]
  have hsigned : m.signed = n.signed := by
    cases hm : m.signed
    cases hk : n.signed
    rw [BitArray.mk.injEq]
    exact ⟨by simpa [hm, hk] using h.extra_eq.trans hn.extra_eq.symm, by simpa [hm, hk] using helems⟩
  cases m
  cases n
  rw [MultiSignature.mk.injEq]
  exact ⟨h.threshold_eq.trans hn.threshold_eq.symm, h.members_eq.trans hn.members_eq.symm, hsigned,
    (h.signatures_eq.trans (by rw [hlatest])).trans hn.signatures_eq.symm⟩

/-- The signatures of the members before a place. -/
def signaturesBefore (members : List PublicKey) (calls : List (PublicKey × Bytes)) (i : Nat) :
    List Bytes :=
  (List.range i).filterMap (latestAt members calls)

/-- The signatures of the members behind a place. -/
def signaturesBehind (members : List PublicKey) (calls : List (PublicKey × Bytes)) (i : Nat) :
    List Bytes :=
  ((List.range (members.length - (i + 1))).map (i + 1 + ·)).filterMap (latestAt members calls)

lemma filterMap_latestAt {i : Nat} (hi : i < members.length) :
    (List.range members.length).filterMap (latestAt members calls) =
      signaturesBefore members calls i ++ (latestAt members calls i).toList ++
        signaturesBehind members calls i := by
  rw [range_split (Nat.succ_le_of_lt hi), List.filterMap_append, List.range_succ,
    List.filterMap_append]
  cases hlatest : latestAt members calls i <;> simp [hlatest, signaturesBefore, signaturesBehind]

lemma countBefore_of_collected (h : Collected threshold members calls m) {i : Nat}
    (hi : i ≤ members.length) :
    m.signed.countBefore i = (signaturesBefore members calls i).length := by
  rw [countBefore_eq, h.size_eq, Nat.min_eq_left hi, signaturesBefore,
    List.length_filterMap_eq_countP]
  exact List.countP_congr fun j _ => by rw [h.get_eq]

lemma insertIdx_length {α : Type} (front back : List α) (x : α) :
    (front ++ back).insertIdx front.length x = front ++ x :: back := by
  induction front with
  | nil => rfl
  | cons a front ih => rw [List.cons_append, List.length_cons, List.insertIdx_succ_cons, ih]; rfl

/-- The latest signatures of other members stay. -/
lemma signaturesBefore_append {call : PublicKey × Bytes} {i : Nat}
    (h : members.findIdx? (fun key => key == call.1) = some i) :
    signaturesBefore members (calls ++ [call]) i = signaturesBefore members calls i := by
  apply List.filterMap_congr
  intro j hj
  have hlt := List.mem_range.1 hj
  rw [latestAt_append, h, if_neg (by simp; omega)]

lemma signaturesBehind_append {call : PublicKey × Bytes} {i : Nat}
    (h : members.findIdx? (fun key => key == call.1) = some i) :
    signaturesBehind members (calls ++ [call]) i = signaturesBehind members calls i := by
  apply List.filterMap_congr
  intro j hj
  obtain ⟨k, -, rfl⟩ := List.mem_map.1 hj
  rw [latestAt_append, h, if_neg (by simp; omega)]

/-- No call reaches beyond the end of the bits or of the signatures. -/
lemma strictAdd?_eq (h : Collected threshold members calls m) (member : PublicKey)
    (signature : Bytes) : m.strictAdd? member signature = some (m.add member signature) := by
  unfold strictAdd? add
  rw [h.members_eq]
  cases hfind : members.findIdx? (fun key => key == member) with
  | none => rfl
  | some i =>
    have hi := lt_of_findIdx? hfind
    have hplace := countBefore_of_collected h (Nat.le_of_lt hi)
    have hsignatures := h.signatures_eq.trans (filterMap_latestAt hi)
    simp only [strictCountBefore?_eq, strictGet?_eq, strictSet?_eq, bind, Option.bind, pure]
    by_cases hget : m.signed.get i
    · have hlt : m.signed.countBefore i < m.signatures.length := by
        rw [h.get_eq] at hget
        obtain ⟨old, hold⟩ := Option.isSome_iff_exists.1 hget
        rw [hplace, hsignatures, hold]
        simp
      rw [if_pos hget, if_pos hget, if_pos hlt]
    · have hle : m.signed.countBefore i ≤ m.signatures.length := by
        rw [hplace, hsignatures]
        simp
      rw [if_neg hget, if_neg hget, if_pos hle]

lemma collected_of_not_member (h : Collected threshold members calls m) {call : PublicKey × Bytes}
    (hcall : members.findIdx? (fun key => key == call.1) = none) :
    Collected threshold members (calls ++ [call]) m := by
  have hsame : latestAt members (calls ++ [call]) = latestAt members calls := by
    funext i
    rw [latestAt_append, hcall, if_neg (by simp)]
  refine ⟨h.threshold_eq, h.members_eq, h.extra_eq, h.length_eq, ?_, ?_⟩
  · intro i
    rw [hsame, h.bit_eq]
  · rw [hsame, h.signatures_eq]

/-- The signatures after a call of the member at a place. -/
lemma filterMap_latestAt_append {call : PublicKey × Bytes} {i : Nat}
    (h : members.findIdx? (fun key => key == call.1) = some i) :
    (List.range members.length).filterMap (latestAt members (calls ++ [call])) =
      signaturesBefore members calls i ++ call.2 :: signaturesBehind members calls i := by
  rw [filterMap_latestAt (lt_of_findIdx? h), signaturesBefore_append h, signaturesBehind_append h,
    latestAt_append, if_pos h]
  simp

/-- A call of a member replaces its signature or puts it between those of the others. -/
lemma collected_step (h : Collected threshold members calls m) (call : PublicKey × Bytes) :
    Collected threshold members (calls ++ [call]) (m.step call) := by
  cases hfind : members.findIdx? (fun key => key == call.1) with
  | none =>
    have hstep : m.step call = m := by
      rw [step, add, h.members_eq, hfind]
    rw [hstep]
    exact collected_of_not_member h hfind
  | some i =>
    have hi := lt_of_findIdx? hfind
    have hplace := countBefore_of_collected h (Nat.le_of_lt hi)
    have hsignatures := h.signatures_eq.trans (filterMap_latestAt hi)
    by_cases hget : m.signed.get i
    · -- the member has signed before: its place in the list is taken and keeps its bit
      have hstep : m.step call =
          { m with signatures := m.signatures.set (m.signed.countBefore i) call.2 } := by
        rw [step, add, h.members_eq, hfind]
        simp only [hget, if_true]
      obtain ⟨old, hold⟩ := Option.isSome_iff_exists.1 ((h.get_eq i).symm.trans hget)
      rw [hstep]
      refine ⟨h.threshold_eq, h.members_eq, h.extra_eq, h.length_eq, ?_, ?_⟩
      · intro j
        rw [latestAt_append, hfind, h.bit_eq]
        by_cases hj : i = j
        · rw [if_pos (congrArg some hj), ← hj, hold]
          rfl
        · rw [if_neg fun he => hj (Option.some.inj he)]
      · rw [filterMap_latestAt_append hfind, hplace, hsignatures, hold]
        simp
    · -- the bit is new, and the signatures behind its place move up
      have hnone : latestAt members calls i = none := by
        rw [h.get_eq, Bool.not_eq_true, Option.isSome_eq_false_iff, Option.isNone_iff_eq_none] at hget
        exact hget
      obtain ⟨signed, hset, hextra, hlength, hbits⟩ := set?_true (h.size_eq.symm ▸ hi)
      have hstep : m.step call = { m with
          signed := signed
          signatures := m.signatures.insertIdx (m.signed.countBefore i) call.2 } := by
        rw [step, add, h.members_eq, hfind]
        simp only [hget, hset, Option.getD_some]
        rfl
      rw [hstep]
      refine ⟨h.threshold_eq, h.members_eq, hextra.trans h.extra_eq, hlength.trans h.length_eq,
        ?_, ?_⟩
      · intro j
        rw [latestAt_append, hfind, hbits, h.bit_eq]
        by_cases hj : i = j
        · rw [if_pos (congrArg some hj), decide_eq_true hj.symm]
          rfl
        · rw [if_neg fun he => hj (Option.some.inj he), decide_eq_false fun he => hj he.symm]
          rfl
      · rw [filterMap_latestAt_append hfind, hplace, hsignatures, hnone, Option.toList_none,
          List.append_nil]
        exact insertIdx_length _ _ _

/-! ### Whole runs -/

def noSignatures (threshold : UInt32) (members : List PublicKey) : MultiSignature :=
  ⟨threshold, members, BitArray.ofSize members.length, []⟩

lemma collected_start : Collected threshold members [] (noSignatures threshold members) := by
  have hnone : latestAt members [] = fun _ => none := by
    funext i
    unfold latestAt
    cases members[i]? with
    | none => rfl
    | some key => exact ite_self none
  refine ⟨rfl, rfl, rfl, rfl, ?_, ?_⟩
  · intro i
    rw [hnone]
    exact bitOf_ofSize _ i
  · rw [hnone]
    simp [noSignatures]

lemma collected_run (calls : List (PublicKey × Bytes)) :
    Collected threshold members calls ((noSignatures threshold members).run calls) := by
  induction calls using List.reverseRecOn with
  | nil => exact collected_start
  | append_singleton calls call ih =>
    rw [run, List.foldl_append]
    exact collected_step ih call

lemma findIdx?_of_mem {key : PublicKey} (h : key ∈ members) :
    ∃ i, members.findIdx? (fun other => other == key) = some i := by
  cases hfind : members.findIdx? (fun other => other == key) with
  | none => exact absurd (List.findIdx?_eq_none_iff.1 hfind key h) (by simp)
  | some i => exact ⟨i, rfl⟩

lemma findIdx?_of_not_mem {key : PublicKey} (h : key ∉ members) :
    members.findIdx? (fun other => other == key) = none :=
  List.findIdx?_eq_none_iff.2 fun _ hother => beq_false_of_ne fun he => h (he ▸ hother)

lemma add_error_iff (h : Collected threshold members calls m) (member : PublicKey)
    (signature : Bytes) : (∃ e, m.add member signature = .error e) ↔ member ∉ members := by
  unfold add
  rw [h.members_eq]
  by_cases hmem : member ∈ members
  · obtain ⟨i, hi⟩ := findIdx?_of_mem hmem
    rw [hi]
    by_cases hget : m.signed.get i <;> simp [hget, hmem]
  · rw [findIdx?_of_not_mem hmem]
    simp [hmem]

lemma step_of_not_member (h : Collected threshold members calls m) {call : PublicKey × Bytes}
    (hcall : call.1 ∉ members) : m.step call = m := by
  obtain ⟨e, he⟩ := (add_error_iff h call.1 call.2).2 hcall
  rw [step, he]

lemma count_eq_countP (h : Collected threshold members calls m) :
    (List.range m.signed.size).countP m.signed.get = m.count := by
  rw [count, h.signatures_eq, h.size_eq, List.length_filterMap_eq_countP]
  exact List.countP_congr fun i _ => by rw [h.get_eq]

lemma signature_at (h : Collected threshold members calls m) {i : Nat} (hget : m.signed.get i) :
    m.signatures[m.signed.countBefore i]? = latestAt members calls i := by
  obtain ⟨signature, hlatest⟩ := Option.isSome_iff_exists.1 ((h.get_eq i).symm.trans hget)
  obtain ⟨call, -, hfind⟩ := latestAt_isSome.1 ((h.get_eq i).symm.trans hget)
  have hi := lt_of_findIdx? hfind
  rw [countBefore_of_collected h (Nat.le_of_lt hi), h.signatures_eq, filterMap_latestAt hi, hlatest]
  simp

/-- The members that have signed, in their order and each once. -/
def signers (members : List PublicKey) (calls : List (PublicKey × Bytes)) : List PublicKey :=
  ((List.range members.length).filter fun i => (latestAt members calls i).isSome).map
    fun i => members.getD i PublicKey.placeholder

lemma nodup_signers : (signers members calls).Nodup := by
  apply List.Nodup.map_on _ (List.nodup_range.filter _)
  intro i hi j hj hij
  obtain ⟨call, -, hfind⟩ := latestAt_isSome.1 (List.mem_filter.1 hi).2
  obtain ⟨other, -, hother⟩ := latestAt_isSome.1 (List.mem_filter.1 hj).2
  rw [List.getD_eq_getElem?_getD, List.getD_eq_getElem?_getD, getElem?_of_findIdx? hfind,
    getElem?_of_findIdx? hother, Option.getD_some, Option.getD_some] at hij
  rw [hij, hother] at hfind
  exact (Option.some.inj hfind).symm

lemma mem_signers {key : PublicKey} :
    key ∈ signers members calls ↔ key ∈ members ∧ ∃ call ∈ calls, call.1 = key := by
  rw [signers, List.mem_map]
  constructor
  · rintro ⟨i, hi, rfl⟩
    obtain ⟨call, hcall, hfind⟩ := latestAt_isSome.1 (List.mem_filter.1 hi).2
    have hkey := getElem?_of_findIdx? hfind
    rw [List.getD_eq_getElem?_getD, hkey, Option.getD_some]
    exact ⟨List.mem_of_getElem? hkey, call, hcall, rfl⟩
  · rintro ⟨hkey, call, hcall, rfl⟩
    obtain ⟨i, hfind⟩ := findIdx?_of_mem hkey
    refine ⟨i, List.mem_filter.2 ⟨List.mem_range.2 (lt_of_findIdx? hfind), ?_⟩, ?_⟩
    · exact latestAt_isSome.2 ⟨call, hcall, hfind⟩
    · rw [List.getD_eq_getElem?_getD, getElem?_of_findIdx? hfind, Option.getD_some]

lemma count_eq_card (h : Collected threshold members calls m) :
    m.count = (members.toFinset ∩ (calls.map (·.1)).toFinset).card := by
  have hset : members.toFinset ∩ (calls.map (·.1)).toFinset = (signers members calls).toFinset := by
    ext key
    simp only [Finset.mem_inter, List.mem_toFinset, List.mem_map, mem_signers]
  rw [hset, List.toFinset_card_of_nodup nodup_signers, signers, List.length_map, count,
    h.signatures_eq, List.length_filterMap_eq_countP, List.countP_eq_length_filter]

lemma mem_of_latestAt {i : Nat} {signature : Bytes}
    (h : latestAt members calls i = some signature) : ∃ call ∈ calls, call.2 = signature := by
  obtain ⟨key, -, hkey⟩ := Option.bind_eq_some_iff.1 h
  by_cases hfirst : members.findIdx? (fun other => other == key) = some i
  · rw [if_pos hfirst, latest] at hkey
    obtain ⟨call, hcall, rfl⟩ := Option.map_eq_some_iff.1 hkey
    exact ⟨call, (List.mem_filter.1 (List.mem_of_getLast? hcall)).1, rfl⟩
  · rw [if_neg hfirst] at hkey
    exact absurd hkey (by simp)

lemma decode_collected (h : Collected threshold members calls m) (hfits : ∀ call ∈ calls, Fits call.2) :
    Proto.decode Proto.MultiSignature.merge {} m.bytes = .ok ⟨m.signatures⟩ := by
  apply decode_bytes
  apply reads_multiSignature
  intro signature hsignature
  simp only [h.signatures_eq] at hsignature
  obtain ⟨i, -, hlatest⟩ := List.mem_filterMap.1 hsignature
  obtain ⟨call, hcall, rfl⟩ := mem_of_latestAt hlatest
  exact hfits call hcall

/-- Whatever calls are made for a key of keys, in whatever order: no call reaches beyond an end; only
a call for a key that is no member fails, and it changes nothing; a bit is set for the first place of
each key that has been given; the signatures are the latest ones in the order of the places, and with
the bits they depend on nothing else; bits, modes and signatures are as many; the bits set before a
member tell where its signature stands; the threshold is reached once as many different members have
signed; and the encoded signatures are read back as they stand. -/
theorem multiSignature_run (threshold : UInt32) (members : List PublicKey) :
    ∃ s, start (.multisig threshold members) = .ok s ∧ ∀ calls : List (PublicKey × Bytes),
      let m := s.run calls
      (∀ member signature, m.strictAdd? member signature = some (m.add member signature)) ∧
      (∀ member signature, (∃ e, m.add member signature = .error e) ↔ member ∉ members) ∧
      (∀ call : PublicKey × Bytes, call.1 ∉ members → s.run (calls ++ [call]) = m) ∧
      (∀ i, m.signed.get i ↔
        ∃ call ∈ calls, members.findIdx? (fun key => key == call.1) = some i) ∧
      m.signatures = (List.range members.length).filterMap (latestAt members calls) ∧
      (∀ others, (∀ key ∈ members, latest calls key = latest others key) → m = s.run others) ∧
      (List.range m.signed.size).countP m.signed.get = m.count ∧
      (∃ infos, m.mode = .multi m.signed infos ∧ infos.length = m.count) ∧
      (∀ i, m.signed.get i → m.signatures[m.signed.countBefore i]? = latestAt members calls i) ∧
      (m.thresholdReached ↔
        threshold.toNat ≤ (members.toFinset ∩ (calls.map (·.1)).toFinset).card) ∧
      ((∀ call ∈ calls, Fits call.2) →
        Proto.decode Proto.MultiSignature.merge {} m.bytes = .ok ⟨m.signatures⟩) := by
  refine ⟨noSignatures threshold members, rfl, ?_⟩
  intro calls m
  have h : Collected threshold members calls m := collected_run calls
  refine ⟨strictAdd?_eq h, add_error_iff h, ?_, ?_, h.signatures_eq, ?_, count_eq_countP h,
    ⟨_, rfl, List.length_map _⟩, fun i hget => signature_at h hget, ?_, decode_collected h⟩
  · intro call hcall
    rw [run, List.foldl_append]
    exact step_of_not_member h hcall
  · intro i
    rw [h.get_eq]
    exact latestAt_isSome
  · intro others hothers
    have hlatest := latestAt_congr hothers
    exact h.unique (collected_run others) hlatest
  · rw [thresholdReached, decide_eq_true_iff, h.threshold_eq, count_eq_card h]

/-- Members whose bits fill more than one byte. -/
def nineKeys : List PublicKey :=
  (List.range 9).map fun n => .secp256k1 [UInt8.ofNat n]

/-- The last member signs, then the first, a stranger, and the last once more. -/
def fourCalls : List (PublicKey × Bytes) :=
  [(.secp256k1 [8], [1]), (.secp256k1 [0], [2]), (.ed25519 [0], [3]), (.secp256k1 [8], [4])]

theorem nineKeys_run : ∃ s, start (.multisig 2 nineKeys) = .ok s ∧ (∀ call ∈ fourCalls, Fits call.2) ∧
    (s.run fourCalls).thresholdReached ∧
    Proto.decode Proto.MultiSignature.merge {} (s.run fourCalls).bytes = .ok ⟨[[2], [4]]⟩ := by
  obtain ⟨s, hs, hrun⟩ := multiSignature_run 2 nineKeys
  obtain ⟨-, -, -, -, hsignatures, -, -, -, -, hthreshold, hdecode⟩ := hrun fourCalls
  have hfits : ∀ call ∈ fourCalls, Fits call.2 := by
    simp [fourCalls, Fits]
  refine ⟨s, hs, hfits, hthreshold.2 (by decide), ?_⟩
  rw [hdecode hfits, hsignatures]
  exact congrArg (fun signatures => Except.ok (Proto.MultiSignature.mk signatures)) (by decide)

end CosmosClient.Proofs
