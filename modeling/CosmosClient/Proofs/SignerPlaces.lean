import Mathlib
import CosmosClient.Proofs.Signing

/-!
# The place of a signer

A key signs in the first place that is its own or is open, that is, that has no key or one not known
yet. So a place that is its own is kept unless an open one stands before it; then the key stands in
both. If no document can be made, the key has its place all the same.
-/

namespace CosmosClient

/-- Whether a key is not known yet. -/
def SignerInfo.isOpen (s : SignerInfo) : Bool :=
  match s.publicKey with
  | some key => key.isPlaceholder
  | none => true

/-- Whether the signer in a place has a key that is not known yet. -/
def Tx.OpenAt (t : Tx) (q : Nat) : Prop :=
  ∃ s, t.authInfo.signers[q]? = some s ∧ s.isOpen

def Tx.HasKeyAt (t : Tx) (key : PublicKey) (q : Nat) : Prop :=
  ∃ s, t.authInfo.signers[q]? = some s ∧ s.publicKey = some key

/-- Whether a key stands in one place only. -/
def Tx.OnlyAt (t : Tx) (key : PublicKey) (p : Nat) : Prop :=
  ∀ q, t.HasKeyAt key q ↔ q = p

/-- The place that a key takes: the first one that it may, or the one behind all. -/
structure Key.Takes (k : Key) (t : Tx) (p : Nat) : Prop where
  le : p ≤ t.authInfo.signers.length
  before : ∀ q < p, ∀ s, t.authInfo.signers[q]? = some s → k.mayTake s = false
  free : ∀ s, t.authInfo.signers[p]? = some s → k.mayTake s = true

/-- `u` is `t` signed by a key in the place `p`, which is the only place of the key. -/
structure Key.KeepsPlace (k : Key) (options : SignOptions) (t u : Tx) (p : Nat) : Prop where
  only : u.OnlyAt k.publicKey p
  otherSigners : ∀ q ≠ p, u.authInfo.signers[q]? = t.authInfo.signers[q]?
  signature : ∃ b, options.Documents u b ∧ u.signatures[p]? = some (k.signBytes b)

end CosmosClient

namespace CosmosClient.Proofs

variable {k : Key} {t u : Tx} {options : SignOptions} {p : Nat}

lemma mayTake_iff (k : Key) (s : SignerInfo) :
    k.mayTake s = true ↔ s.publicKey = some k.publicKey ∨ s.isOpen = true := by
  unfold Key.mayTake SignerInfo.isOpen
  cases s.publicKey <;> simp

lemma takes_place (k : Key) (t : Tx) (options : SignOptions) : k.Takes t (k.enlist t options).2 := by
  have hplace : (k.enlist t options).2 =
      (t.authInfo.signers.findIdx? k.mayTake).getD t.authInfo.signers.length := rfl
  rw [hplace]
  cases hfind : t.authInfo.signers.findIdx? k.mayTake with
  | none =>
    have hnone := List.findIdx?_eq_none_iff.1 hfind
    exact ⟨le_refl _, fun q _ s hs => hnone s (List.mem_of_getElem? hs), by simp⟩
  | some i =>
    obtain ⟨hi, hown, hfirst⟩ := List.findIdx?_eq_some_iff_getElem.1 hfind
    refine ⟨hi.le, fun q hq s hs => ?_, fun s hs => ?_⟩
    · obtain ⟨hlt, rfl⟩ := List.getElem?_eq_some_iff.1 hs
      simpa using hfirst q hq
    · obtain ⟨hlt, rfl⟩ := List.getElem?_eq_some_iff.1 hs
      exact hown

lemma takes_le {q : Nat} (hp : k.Takes t p) (hq : k.Takes t q) : p ≤ q := by
  by_contra hlt
  have hle := hp.le
  have hget := List.getElem?_eq_getElem (l := t.authInfo.signers) (i := q) (by omega)
  have hno := hp.before q (by omega) _ hget
  rw [hq.free _ hget] at hno
  exact absurd hno (by simp)

lemma takes_iff : k.Takes t p ↔ (k.enlist t options).2 = p := by
  constructor
  · intro h
    exact le_antisymm (takes_le (takes_place k t options) h) (takes_le h (takes_place k t options))
  · rintro rfl
    exact takes_place k t options

lemma not_open_iff (q : Nat) :
    ¬t.OpenAt q ↔ ∀ s, t.authInfo.signers[q]? = some s → s.isOpen = false := by
  simp [Tx.OpenAt]

lemma mayTake_before (honly : t.OnlyAt k.publicKey p) {q : Nat} (hq : q < p) {s : SignerInfo}
    (hs : t.authInfo.signers[q]? = some s) : k.mayTake s = s.isOpen := by
  have hother : s.publicKey ≠ some k.publicKey := by
    intro hkey
    have hsame := (honly q).1 ⟨s, hs, hkey⟩
    omega
  rw [Bool.eq_iff_iff, mayTake_iff]
  simp [hother]

/-- A key takes its only place unless an open one stands before it. -/
lemma takes_only_iff (honly : t.OnlyAt k.publicKey p) :
    k.Takes t p ↔ ∀ q < p, ¬t.OpenAt q := by
  obtain ⟨s, hs, hkey⟩ := (honly p).2 rfl
  have hlt := (List.getElem?_eq_some_iff.1 hs).1
  constructor
  · intro h q hq
    rw [not_open_iff]
    intro r hr
    rw [← mayTake_before honly hq hr]
    exact h.before q hq r hr
  · intro h
    refine ⟨hlt.le, fun q hq r hr => ?_, fun r hr => ?_⟩
    · rw [mayTake_before honly hq hr]
      exact (not_open_iff q).1 (h q hq) r hr
    · rw [hs] at hr
      rw [mayTake_iff, ← Option.some.inj hr]
      exact .inl hkey

/-- Where no open place stands before one, an open place before the only place of a key is taken. -/
lemma takes_open (honly : t.OnlyAt k.publicKey p) {q : Nat} (hq : q < p) (hopen : t.OpenAt q)
    (hbefore : ∀ r < q, ¬t.OpenAt r) : k.Takes t q := by
  obtain ⟨s, hs, hsopen⟩ := hopen
  have hlt := (List.getElem?_eq_some_iff.1 hs).1
  refine ⟨hlt.le, fun r hr x hx => ?_, fun x hx => ?_⟩
  · rw [mayTake_before honly (hr.trans hq) hx]
    exact (not_open_iff r).1 (hbefore r hr) x hx
  · rw [hs] at hx
    rw [mayTake_iff, ← Option.some.inj hx]
    exact .inr hsopen

lemma hasKeyAt_of_signedAt {q r : Nat} (h : k.SignedAt options t u q) (hr : r ≠ q) (key : PublicKey) :
    u.HasKeyAt key r ↔ t.HasKeyAt key r := by
  rw [Tx.HasKeyAt, Tx.HasKeyAt, h.otherSigners r hr]

lemma keepsPlace_iff (honly : t.OnlyAt k.publicKey p) {q : Nat} (h : k.SignedAt options t u q) :
    k.KeepsPlace options t u p ↔ q = p := by
  constructor
  · intro hkeeps
    exact (hkeeps.only q).1 ⟨_, h.signer, rfl⟩
  · rintro rfl
    refine ⟨fun r => ?_, h.otherSigners, h.signature⟩
    by_cases hr : r = q
    · exact iff_of_true ⟨_, hr ▸ h.signer, rfl⟩ hr
    · rw [hasKeyAt_of_signedAt h hr, honly r]

/-- A key that stands in one place, and signs, keeps that place and no other, changes no other signer
and puts its signature there just if no open place stands before it. Otherwise the first open place
takes the signer and the signature, and the key stands there and in its own place. -/
theorem signer_keeps_place_iff (k : Key) (t u : Tx) (options : SignOptions) (p : Nat)
    (honly : t.OnlyAt k.publicKey p) (hsign : k.signTx t options = (u, .ok ())) :
    (k.KeepsPlace options t u p ↔ ∀ q < p, ¬t.OpenAt q) ∧
      ∀ q < p, t.OpenAt q → (∀ r < q, ¬t.OpenAt r) →
        k.SignedAt options t u q ∧ u.HasKeyAt k.publicKey p := by
  have hsigned := signedAt_of_signTx hsign
  constructor
  · rw [keepsPlace_iff honly hsigned, ← takes_only_iff honly, takes_iff]
  · intro q hq hopen hbefore
    rw [takes_iff.1 (takes_open honly hq hopen hbefore)] at hsigned
    exact ⟨hsigned, (hasKeyAt_of_signedAt hsigned (by omega) _).2 ((honly p).2 rfl)⟩

/-- A payment with empty signatures for a key of keys, the key with the number 2 and a signer whose key
is not known. -/
def middleTx : Tx :=
  (Tx.unsigned (.ofMessages [.send "alice" "bob" (.ofList [⟨"atom", .clamp 7⟩])])
    (.ofGas 200 .empty)).appendEmptySignatures
      [⟨3, some (.multisig 1 [.ed25519 [3]])⟩, ⟨4, some firstKey.publicKey⟩, ⟨9, none⟩]

lemma firstKey_known : PublicKey.placeholder ≠ firstKey.publicKey := by
  decide +kernel

lemma middleTx_signers : middleTx.authInfo.signers =
    [⟨some (.multisig 1 [.ed25519 [3]]), .multi (BitArray.ofSize 1) [], 3⟩,
      ⟨some firstKey.publicKey, .single .direct, 4⟩, ⟨some .placeholder, .single .direct, 9⟩] := rfl

lemma middleTx_only : middleTx.OnlyAt firstKey.publicKey 1 := by
  intro q
  rw [Tx.HasKeyAt, middleTx_signers]
  match q with
  | 0 => simp [Key.publicKey]
  | 1 => simp
  | 2 => simp [firstKey_known]
  | q + 3 => simp

theorem middleTx_keeps_place :
    middleTx.OnlyAt firstKey.publicKey 1 ∧
      ∃ u, firstKey.signTx middleTx ⟨"chain", 1, 4, .direct⟩ = (u, .ok ()) ∧
        firstKey.KeepsPlace ⟨"chain", 1, 4, .direct⟩ middleTx u 1 := by
  obtain ⟨u, hu, -⟩ := exists_signTx firstKey middleTx ⟨"chain", 1, 4, .direct⟩ rfl
  refine ⟨middleTx_only, u, hu, (signer_keeps_place_iff _ _ _ _ 1 middleTx_only hu).1.2 ?_⟩
  intro q hq
  obtain rfl : q = 0 := by omega
  rw [not_open_iff, middleTx_signers]
  rintro s hs
  rw [← Option.some.inj hs]
  rfl

/-- A payment with empty signatures, first for a signer whose key is not known and then for the key with
the number 2. -/
def lateTx : Tx :=
  (Tx.unsigned middleTx.body middleTx.authInfo.fee).appendEmptySignatures
    [⟨9, none⟩, ⟨4, some firstKey.publicKey⟩]

lemma lateTx_only : lateTx.OnlyAt firstKey.publicKey 1 := by
  have hsigners : lateTx.authInfo.signers = [⟨some .placeholder, .single .direct, 9⟩,
      ⟨some firstKey.publicKey, .single .direct, 4⟩] := rfl
  intro q
  rw [Tx.HasKeyAt, hsigners]
  match q with
  | 0 => simp [firstKey_known]
  | 1 => simp
  | q + 2 => simp

/-- The open signer is overwritten, and the key stands in both places. -/
theorem lateTx_displaced :
    lateTx.OnlyAt firstKey.publicKey 1 ∧
      ∃ u, firstKey.signTx lateTx ⟨"chain", 1, 4, .direct⟩ = (u, .ok ()) ∧
        ¬firstKey.KeepsPlace ⟨"chain", 1, 4, .direct⟩ lateTx u 1 ∧
        u.HasKeyAt firstKey.publicKey 0 ∧ u.HasKeyAt firstKey.publicKey 1 := by
  obtain ⟨u, hu, -⟩ := exists_signTx firstKey lateTx ⟨"chain", 1, 4, .direct⟩ rfl
  have hplace : (firstKey.enlist lateTx ⟨"chain", 1, 4, .direct⟩).2 = 0 :=
    takes_iff.1 (takes_open lateTx_only (by decide) ⟨_, rfl, rfl⟩ (by simp))
  have hsigned := signedAt_of_signTx hu
  rw [hplace] at hsigned
  refine ⟨lateTx_only, u, hu, ?_, ⟨_, hsigned.signer, rfl⟩, ?_⟩
  · rw [keepsPlace_iff lateTx_only hsigned]
    decide
  · exact (hasKeyAt_of_signedAt hsigned (by decide) _).2 ((lateTx_only 1).2 rfl)

lemma enlist_eq (k : Key) (t : Tx) (options : SignOptions) :
    (k.enlist t options).1 =
      ⟨t.body, ⟨(k.enlist t options).1.authInfo.signers, t.authInfo.fee⟩,
        (k.enlist t options).1.signatures⟩ := rfl

/-- Nothing is changed when the signer stands already in the place that the key takes and all signers
have signatures. -/
lemma enlist_eq_self_iff :
    (k.enlist t options).1 = t ↔ (∃ p, k.Takes t p ∧
      t.authInfo.signers[p]? = some (k.signer options)) ∧
        t.authInfo.signers.length ≤ t.signatures.length := by
  have hsignatures := enlist_signatures k t options
  constructor
  · intro h
    have hsigner := enlist_signers k t options (k.enlist t options).2
    rw [if_pos rfl] at hsigner
    rw [h] at hsigner hsignatures
    have hlength := congrArg List.length hsignatures
    rw [List.length_append, List.length_replicate] at hlength
    exact ⟨⟨_, takes_place k t options, hsigner⟩, by omega⟩
  · rintro ⟨⟨p, htakes, hsigner⟩, hlength⟩
    have hsigners : (k.enlist t options).1.authInfo.signers = t.authInfo.signers := by
      apply List.ext_getElem?
      intro q
      rw [enlist_signers, takes_iff.1 htakes]
      split
      next hq => rw [hq, hsigner]
      next => rfl
    rw [hsigners, Nat.sub_eq_zero_of_le hlength, List.replicate_zero, List.append_nil] at hsignatures
    rw [enlist_eq, hsigners, hsignatures]

lemma signTx_eq_error {e : Failure} (h : k.signTx t options = (u, .error e)) :
    u = if Key.supports options.mode then (k.enlist t options).1 else t := by
  unfold Key.signTx at h
  split at h
  · cases hdocument : Key.documentBytes (k.enlist t options).1 options <;> simp_all
  · simp_all

/-- A signing that fails leaves the transaction as it was just if the mode cannot be signed in, or the
signer of the key stands already in the place that it takes and each signer has a signature. In any
case it keeps the body, the fee and the signatures there are. -/
theorem failed_signing_keeps_iff (k : Key) (t u : Tx) (options : SignOptions) (e : Failure)
    (hsign : k.signTx t options = (u, .error e)) :
    (u = t ↔ Key.supports options.mode = false ∨
      (∃ p, k.Takes t p ∧ t.authInfo.signers[p]? = some (k.signer options)) ∧
        t.authInfo.signers.length ≤ t.signatures.length) ∧
      u.body = t.body ∧ u.authInfo.fee = t.authInfo.fee ∧ t.signatures <+: u.signatures := by
  have hleft := signTx_eq_error hsign
  by_cases hmode : Key.supports options.mode
  · rw [if_pos hmode] at hleft
    subst hleft
    refine ⟨?_, rfl, rfl, ?_⟩
    · rw [enlist_eq_self_iff]
      simp [hmode]
    · rw [enlist_signatures]
      exact List.prefix_append _ _
  · rw [if_neg hmode] at hleft
    subst hleft
    rw [Bool.not_eq_true] at hmode
    exact ⟨iff_of_true rfl (.inl hmode), rfl, rfl, List.prefix_refl _⟩

/-- A transaction without signers whose message has no encoding. -/
def unencodableTx : Tx :=
  .unsigned (.ofMessages [.json (.obj [("@type", .str "/other.Msg")])]) (.ofGas 200 .empty)

lemma unencodableTx_fails {t : Tx} (ht : t.body = unencodableTx.body) :
    ∃ u e, firstKey.signTx t ⟨"chain", 1, 4, .direct⟩ = (u, .error e) := by
  have hok := signTx_isOk firstKey t ⟨"chain", 1, 4, .direct⟩
  have hbody : signable unencodableTx.body .direct = false := rfl
  rw [ht, hbody] at hok
  cases hsigned : firstKey.signTx t ⟨"chain", 1, 4, .direct⟩ with
  | mk u r =>
    rw [hsigned] at hok
    cases r with
    | error e => exact ⟨u, e, rfl⟩
    | ok done => exact absurd hok (by simp [Except.isOk, Except.toBool])

theorem unencodableTx_failed_twice :
    ∃ u e e', firstKey.signTx unencodableTx ⟨"chain", 1, 4, .direct⟩ = (u, .error e) ∧
      u.body = unencodableTx.body ∧
      firstKey.signTx u ⟨"chain", 1, 4, .direct⟩ = (u, .error e') := by
  obtain ⟨u, e, hu⟩ := unencodableTx_fails rfl
  obtain ⟨-, hbody, -⟩ := failed_signing_keeps_iff _ _ _ _ _ hu
  obtain ⟨v, e', hv⟩ := unencodableTx_fails hbody
  have hkept := (failed_signing_keeps_iff _ _ _ _ _ hv).1
  -- the first attempt has left the signer in the place that the key takes
  have hleft : u = (firstKey.enlist unencodableTx ⟨"chain", 1, 4, .direct⟩).1 := signTx_eq_error hu
  have htakes : firstKey.Takes u 0 := by
    refine ⟨Nat.zero_le _, by simp, fun s hs => ?_⟩
    rw [hleft] at hs
    rw [mayTake_iff, ← Option.some.inj hs]
    exact .inl rfl
  have hsame : v = u := hkept.2 (.inr ⟨⟨0, htakes, by rw [hleft]; rfl⟩, by rw [hleft]; decide⟩)
  rw [hsame] at hv
  exact ⟨u, e, e', hu, hbody, hv⟩

/-- The signer of the key and an empty signature stay behind. -/
theorem unencodableTx_changed :
    ∃ u e, firstKey.signTx unencodableTx ⟨"chain", 1, 4, .direct⟩ = (u, .error e) ∧
      u ≠ unencodableTx := by
  refine ⟨_, _, rfl, fun h => ?_⟩
  have hsigners := congrArg (fun t => t.authInfo.signers.length) h
  exact absurd hsigners (by decide)

end CosmosClient.Proofs
