import Mathlib
import CosmosClient.Proofs.LostReplies
import CosmosClient.Proofs.Signing

/-!
# The sequence of a transaction

A wallet asks for its account only when the draft leaves open what it needs, and simulates twice at
most, the second time only when the first answer names another sequence. What it creates, signs or
broadcasts first carries the sequence of the simulation that succeeded, or without one the sequence
it began with.
-/

namespace CosmosClient

def Tx.sequences (t : Tx) : List UInt64 := t.authInfo.signers.map fun s => s.sequence

namespace Wallet

def lookup (w : Wallet) : Request := { path := Client.accountPath w.address.write }

/-- The sequence that an account is simulated at; one that is not found begins at 0. -/
def firstSequence? : Except RequestError Account → Option UInt64
  | .ok account => some account.sequence
  | .error e => if e.isNotFound then some 0 else none

/-- How the sequence to simulate at is found, or not. -/
inductive Started (w : Wallet) (d : TxDraft) :
    List (Request × Response) → Option UInt64 → Prop where
  | given {sequence : UInt64} (hsequence : d.sequence = some sequence) :
      Started w d [] (some sequence)
  | asked {response : Response} {found : Option UInt64} (hopen : d.sequence = none)
      (hfound : firstSequence? (accountOf w.address.write response) = found) :
      Started w d [(w.lookup, response)] found

/-- How the number and the sequence to sign with are found, or not. -/
inductive Resolved (w : Wallet) (d : TxDraft) :
    List (Request × Response) → Option (UInt64 × UInt64) → Prop where
  | given {number sequence : UInt64} (hnumber : d.accountNumber = some number)
      (hsequence : d.sequence = some sequence) : Resolved w d [] (some (number, sequence))
  | asked {response : Response} {account : Account}
      (hopen : d.accountNumber = none ∨ d.sequence = none)
      (haccount : accountOf w.address.write response = .ok account) :
      Resolved w d [(w.lookup, response)]
        (some (d.accountNumber.getD account.number, d.sequence.getD account.sequence))
  | failed {response : Response} {e : RequestError}
      (hopen : d.accountNumber = none ∨ d.sequence = none)
      (herror : accountOf w.address.write response = .error e) :
      Resolved w d [(w.lookup, response)] none

/-- The sequence that the answer to a simulation names, if it is an error of the endpoint. -/
def namedBy (response : Response) : Option UInt64 :=
  match gasOf response with
  | .error (.endpoint _ _ _ message) => Setback.expected? message
  | _ => none

/-- The simulations of a draft, with the sequence of the one that succeeded. -/
inductive Simulated (w : Wallet) (d : TxDraft) (sequence : UInt64) :
    List (Request × Response) → Option UInt64 → Prop where
  | unencodable (hq : w.simulation? d sequence = none) : Simulated w d sequence [] none
  | once {q : Request} {response : Response} (hq : w.simulation? d sequence = some q)
      (hnamed : namedBy response = none) :
      Simulated w d sequence [(q, response)] ((gasOf response).toOption.map fun _ => sequence)
  | twice {q q' : Request} {response response' : Response} {x : UInt64}
      (hq : w.simulation? d sequence = some q) (hnamed : namedBy response = some x)
      (hq' : w.simulation? d x = some q') :
      Simulated w d sequence [(q, response), (q', response')]
        ((gasOf response').toOption.map fun _ => x)

/-- The simulations of a draft that may have a fee or a limit of gas. -/
inductive Priced (w : Wallet) (d : TxDraft) (sequence : UInt64) :
    List (Request × Response) → Option UInt64 → Prop where
  | given (h : d.fee ≠ none ∨ d.gasLimit ≠ none) : Priced w d sequence [] (some sequence)
  | unpriced {es : List (Request × Response)} {used : Option UInt64} (hfee : d.fee = none)
      (hgas : d.gasLimit = none) (h : Simulated w d sequence es used) : Priced w d sequence es used

/-- Simulations of which there are two at most, the second exactly when the answer to the first names a
sequence, and at that sequence. -/
structure Repeats (w : Wallet) (d : TxDraft) (sims : List (Request × Response)) : Prop where
  length : sims.length ≤ 2
  again : ∀ first ∈ sims.head?, sims[1]?.isSome ↔ (namedBy first.2).isSome
  named : ∀ first ∈ sims.head?, ∀ x ∈ namedBy first.2, sims[1]?.map (·.1) = w.simulation? d x

/-- What comes after a step that may have failed: then nothing. -/
def After {α : Type} (found : Option α)
    (step : α → List (Request × Response) → Option UInt64 → Prop)
    (es : List (Request × Response)) (used : Option UInt64) : Prop :=
  match found with
  | none => es = [] ∧ used = none
  | some a => step a es used

/-- Whether a request hands over a transaction or looks for one. -/
def Delivers (q : Request) : Prop :=
  hands q ∨ ∃ txhash, q = Client.looking txhash

end Wallet
end CosmosClient

namespace CosmosClient.Proofs
open Course (Goes)
open Client (looking)
open Wallet

variable {α : Type} {w : Wallet} {d : TxDraft} {number sequence : UInt64}
  {es : List (Request × Response)}

lemma started_of_goes {r : Except Failure UInt64} (h : (w.simulationSequence d).run.Goes es r) :
    Started w d es r.toOption := by
  unfold simulationSequence at h
  split at h
  next sequence hsequence =>
    obtain ⟨rfl, rfl⟩ := goes_pure h
    exact .given hsequence
  next hopen =>
    obtain ⟨front, x, back, rfl, haccount, hrest⟩ := goes_attempt h
    obtain ⟨response, rfl, rfl⟩ := goes_account haccount
    cases haccount : accountOf w.address.write response with
    | ok account =>
      simp only [haccount] at hrest
      obtain ⟨rfl, rfl⟩ := goes_pure hrest
      exact .asked hopen (by rw [haccount]; rfl)
    | error e =>
      simp only [haccount] at hrest
      by_cases hmissing : e.isNotFound
      · simp only [hmissing, if_true] at hrest
        obtain ⟨rfl, rfl⟩ := goes_pure hrest
        exact .asked hopen (by rw [haccount, firstSequence?, if_pos hmissing]; rfl)
      · simp only [hmissing] at hrest
        obtain ⟨rfl, rfl⟩ := goes_throw hrest
        exact .asked hopen (by rw [haccount, firstSequence?, if_neg hmissing]; rfl)

lemma resolved_of_goes {r : Except Failure (UInt64 × UInt64)}
    (h : (w.signingNumbers d).run.Goes es r) : Resolved w d es r.toOption := by
  unfold signingNumbers at h
  split at h
  next number sequence hnumber hsequence =>
    obtain ⟨rfl, rfl⟩ := goes_pure h
    exact .given hnumber hsequence
  next number sequence hboth =>
    have hopen := open_of_ungiven hboth
    obtain ⟨e, rfl, hnumbers⟩ | ⟨front, numbers, back, rfl, hnumbers, hdone⟩ := goes_bindExcept h
    · obtain ⟨response, rfl, hread⟩ := goes_numbers hnumbers
      cases haccount : accountOf w.address.write response with
      | error e => exact .failed hopen haccount
      | ok account => exact absurd hread (by rw [haccount]; simp [Except.toOption])
    · obtain ⟨response, rfl, hread⟩ := goes_numbers hnumbers
      obtain ⟨account, haccount, rfl⟩ := Option.map_eq_some_iff.1 hread.symm
      obtain ⟨rfl, rfl⟩ := goes_pure hdone
      exact .asked hopen (toOption_eq_some.1 haccount)

/-- Whether a draft can be simulated does not depend on the sequence. -/
lemma simulation?_isSome (w : Wallet) (d : TxDraft) (sequence : UInt64) :
    (w.simulation? d sequence).isSome = d.body.toProto.isOk := by
  rw [simulation?, Option.isSome_map, isSome_toOption, toBase64_isOk]
  rfl

lemma namedBy_of_error {response : Response} {e : RequestError} (h : gasOf response = .error e) :
    namedBy response = e.endpointMessage.bind Setback.expected? := by
  rw [namedBy, h]
  cases e <;> rfl

lemma simulated_of_goes {r : Except Failure (Fee × UInt64)}
    (h : (w.estimateWithSequence d sequence).run.Goes es r) :
    Simulated w d sequence es (r.toOption.map (·.2)) := by
  obtain ⟨fee, rfl, hfee⟩ | ⟨f, rfl, hfailed⟩ | ⟨x, f, front, back, y, rfl, hfirst, hsecond, rfl⟩ :=
    goes_withSequence h
  · obtain ⟨q, response, gas, hq, rfl, hgas, -⟩ := estimateAt_ok hfee
    have honce : Simulated w d sequence [(q, response)] _ := .once hq (by rw [namedBy, hgas])
    rwa [hgas] at honce
  · obtain ⟨hq, rfl, -⟩ | ⟨q, response, hq, rfl, -, hr⟩ := goes_estimateAt hfailed
    · exact .unencodable hq
    · cases hgas : gasOf response with
      | ok gas =>
        rw [hgas] at hr
        exact absurd hr (by simp)
      | error e =>
        rw [hgas] at hr
        obtain ⟨g, hr⟩ := hr
        have hnamed : namedBy response = none := (namedBy_of_error hgas).trans
          (congrArg Setback.expected (Except.error.inj hr)).symm
        have honce := Simulated.once hq hnamed
        rwa [hgas] at honce
  · obtain ⟨q, response, url, status, code, message, hq, rfl, he, hexpected⟩ :=
      estimateAt_mismatch hfirst
    have hnamed : namedBy response = some x := by
      rw [namedBy, he]
      exact hexpected
    obtain ⟨hq', -, -⟩ | ⟨q', response', hq', rfl, -, hr⟩ := goes_estimateAt hsecond
    · have hsame := (simulation?_isSome w d sequence).trans (simulation?_isSome w d x).symm
      rw [hq, hq'] at hsame
      exact absurd hsame (by simp)
    · have htwice : Simulated w d sequence [(q, response), (q', response')] _ :=
        .twice hq hnamed hq'
      cases hgas : gasOf response' with
      | ok gas =>
        rw [hgas] at hr htwice
        rw [hr]
        exact htwice
      | error e' =>
        rw [hgas] at hr htwice
        obtain ⟨g, rfl⟩ := hr
        exact htwice

lemma repeats_nil (w : Wallet) (d : TxDraft) : Repeats w d [] := ⟨by simp, by simp, by simp⟩

lemma repeats_of_simulated {used : Option UInt64} (h : Simulated w d sequence es used) :
    Repeats w d es := by
  cases h with
  | unencodable hq => exact repeats_nil w d
  | once hq hnamed => exact ⟨by simp, by simp [hnamed], by simp [hnamed]⟩
  | twice hq hnamed hq' => exact ⟨by simp, by simp [hnamed], by simp [hnamed, hq']⟩

lemma repeats_of_priced {used : Option UInt64} (h : Priced w d sequence es used) :
    Repeats w d es := by
  cases h with
  | given h => exact repeats_nil w d
  | unpriced hfee hgas h => exact repeats_of_simulated h

lemma priced_of_resolveFee {r : Except Failure (Fee × UInt64)}
    (h : (w.resolveFee d sequence).run.Goes es r) :
    Priced w d sequence es (r.toOption.map (·.2)) := by
  unfold resolveFee at h
  split at h
  next fee _ hfee =>
    obtain ⟨rfl, rfl⟩ := goes_pure h
    exact .given (.inl (by simp [hfee]))
  next gas hfee hgas =>
    obtain ⟨rfl, rfl⟩ := goes_pure h
    exact .given (.inr (by simp [hgas]))
  next hfee hgas => exact .unpriced hfee hgas (simulated_of_goes h)

lemma priced_of_plan {r : Except Failure (FeePlan × UInt64)}
    (h : (w.plan d sequence).run.Goes es r) :
    Priced w d sequence es (r.toOption.map (·.2)) := by
  unfold plan at h
  split at h
  next fee _ hfee =>
    obtain ⟨rfl, rfl⟩ := goes_pure h
    exact .given (.inl (by simp [hfee]))
  next gas hfee hgas =>
    obtain ⟨rfl, rfl⟩ := goes_pure h
    exact .given (.inr (by simp [hgas]))
  next hfee hgas =>
    refine .unpriced hfee hgas ?_
    obtain ⟨e, rfl, hestimate⟩ | ⟨front, estimate, back, rfl, hestimate, hdone⟩ := goes_bindExcept h
    · exact simulated_of_goes hestimate
    · obtain ⟨rfl, rfl⟩ := goes_pure hdone
      rw [List.append_nil]
      exact simulated_of_goes hestimate

lemma goes_after {β : Type} {p : ExceptT Failure Program α} {f : α → ExceptT Failure Program β}
    {finds : List (Request × Response) → Option α → Prop}
    {step : α → List (Request × Response) → Option UInt64 → Prop} {sequenceOf : β → UInt64}
    {r : Except Failure β} (hp : ∀ {es r}, p.run.Goes es r → finds es r.toOption)
    (hf : ∀ {a es r}, (f a).run.Goes es r → step a es (r.toOption.map sequenceOf))
    (h : (p >>= f).run.Goes es r) :
    ∃ asked sims found, es = asked ++ sims ∧ finds asked found ∧
      After found step sims (r.toOption.map sequenceOf) ∧
      ∀ b, r = .ok b → ∃ a, found = some a ∧ (f a).run.Goes sims r := by
  obtain ⟨e, rfl, hfailed⟩ | ⟨front, a, back, rfl, hfound, hrest⟩ := goes_bindExcept h
  · exact ⟨es, [], none, by simp, hp hfailed, ⟨rfl, rfl⟩, fun _ hb => absurd hb (by simp)⟩
  · exact ⟨front, back, some a, rfl, hp hfound, hf hrest, fun _ _ => ⟨a, rfl, hrest⟩⟩

lemma repeats_of_after {found : Option α} {used : Option UInt64}
    {step : α → List (Request × Response) → Option UInt64 → Prop}
    (hstep : ∀ {a es used}, step a es used → Repeats w d es) (h : After found step es used) :
    Repeats w d es := by
  cases found with
  | none =>
    obtain ⟨rfl, -⟩ := h
    exact repeats_nil w d
  | some a => exact hstep h

lemma goes_estimateFee {r : Except Failure Fee} (h : (w.estimateFee d).run.Goes es r) :
    ∃ asked sims found used, es = asked ++ sims ∧ Started w d asked found ∧
      After found (Simulated w d) sims used ∧ Repeats w d sims ∧ r.isOk = used.isSome := by
  have hsplit : w.estimateFee d =
      (w.simulationSequence d >>= w.estimateWithSequence d) >>= fun x => pure x.1 := by
    rw [bind_assoc]
    rfl
  rw [hsplit] at h
  obtain ⟨x, hx, rfl⟩ := goes_map h
  obtain ⟨asked, sims, found, hes, hasked, hsims, -⟩ :=
    goes_after started_of_goes simulated_of_goes hx
  exact ⟨asked, sims, found, _, hes, hasked, hsims, repeats_of_after repeats_of_simulated hsims,
    by cases x <;> rfl⟩

lemma goes_createTx {r : Except Failure Tx} (h : (w.createTx d).run.Goes es r) :
    ∃ asked sims found used, es = asked ++ sims ∧ Started w d asked found ∧
      After found (Priced w d) sims used ∧ Repeats w d sims ∧
      r.toOption.map Tx.sequences = used.map fun n => [n] := by
  have hsplit : w.createTx d = (w.simulationSequence d >>= w.resolveFee d) >>= fun x =>
      pure (Client.unsignedTx d x.1 [w.signerData x.2]) := by
    rw [bind_assoc]
    rfl
  rw [hsplit] at h
  obtain ⟨x, hx, rfl⟩ := goes_map h
  obtain ⟨asked, sims, found, hes, hasked, hsims, -⟩ :=
    goes_after started_of_goes priced_of_resolveFee hx
  exact ⟨asked, sims, found, _, hes, hasked, hsims, repeats_of_after repeats_of_priced hsims,
    by cases x <;> rfl⟩

/-! ### Signed transactions -/

/-- A transaction that only has a place for its wallet has that place when it is signed. -/
lemma sequences_of_signWith {fee : Fee} {t : Tx} (h : w.signWith d fee number sequence = .ok t) :
    t.sequences = [sequence] := by
  obtain ⟨done, hsigned, ht⟩ := map_eq_ok.1 h
  obtain ⟨b, -, rfl⟩ := signTx_eq_ok (Prod.ext ht hsigned)
  simp [Tx.sequences, Key.enlist, Client.unsignedTx, Tx.appendEmptySignatures, Tx.unsigned,
    signerData, Tx.emptySigner, Key.publicKey, Key.mayTake, Key.signer]

lemma signWith_isOk (w : Wallet) (d : TxDraft) (fee : Fee) (number sequence : UInt64) :
    (w.signWith d fee number sequence).isOk = signable d.body d.mode := by
  unfold signWith
  rw [isOk_map, signTx_isOk]
  rfl

/-- The number to sign with stays as it was found while the sequence is settled. -/
lemma goes_numbered {β : Type} {f : UInt64 → ExceptT Failure Program (β × UInt64)}
    (hf : ∀ {sequence es r}, (f sequence).run.Goes es r →
      Priced w d sequence es (r.toOption.map (·.2)))
    {r : Except Failure (UInt64 × β × UInt64)}
    (h : (w.signingNumbers d >>= fun numbers =>
      f numbers.2 >>= fun x => pure (numbers.1, x)).run.Goes es r) :
    ∃ asked sims found, es = asked ++ sims ∧ Resolved w d asked found ∧
      After found (fun numbers => Priced w d numbers.2) sims (r.toOption.map (·.2.2)) ∧
      Repeats w d sims ∧ ∀ x, r = .ok x → ∃ first, found = some (x.1, first) := by
  have hstep {a : UInt64 × UInt64} {es : List (Request × Response)}
      {r : Except Failure (UInt64 × β × UInt64)}
      (h : (f a.2 >>= fun x => pure (a.1, x)).run.Goes es r) :
      Priced w d a.2 es (r.toOption.map (·.2.2)) := by
    obtain ⟨x, hx, rfl⟩ := goes_map h
    have hpriced := hf hx
    cases x <;> exact hpriced
  obtain ⟨asked, sims, found, hes, hasked, hsims, hok⟩ := goes_after resolved_of_goes hstep h
  refine ⟨asked, sims, found, hes, hasked, hsims, repeats_of_after repeats_of_priced hsims,
    fun x hr => ?_⟩
  obtain ⟨a, hfound, hrest⟩ := hok x hr
  obtain ⟨y, -, hy⟩ := goes_map hrest
  obtain ⟨z, -, rfl⟩ := map_eq_ok.1 (hy.symm.trans hr)
  exact ⟨a.2, hfound⟩

lemma goes_createAndSign {r : Except Failure Tx} (h : (w.createAndSign d).run.Goes es r) :
    ∃ asked sims found used, es = asked ++ sims ∧ Resolved w d asked found ∧
      After found (fun numbers => Priced w d numbers.2) sims used ∧ Repeats w d sims ∧
      r.isOk = (used.isSome && signable d.body d.mode) ∧
      ∀ t, r = .ok t → ∃ number first fee n, found = some (number, first) ∧ used = some n ∧
        w.signWith d fee number n = .ok t ∧ t.sequences = [n] := by
  have hsplit : w.createAndSign d = (w.signingNumbers d >>= fun numbers =>
      w.resolveFee d numbers.2 >>= fun x => pure (numbers.1, x)) >>= fun x =>
        ExceptT.mk (.done (w.signWith d x.2.1 x.1 x.2.2)) := by
    simp only [bind_assoc, pure_bind]
    rfl
  rw [hsplit] at h
  obtain ⟨e, rfl, hfailed⟩ | ⟨front, x, back, rfl, hfound, hsigned⟩ := goes_bindExcept h
  · obtain ⟨asked, sims, found, hes, hasked, hsims, hrepeats, -⟩ :=
      goes_numbered priced_of_resolveFee hfailed
    exact ⟨asked, sims, found, _, hes, hasked, hsims, hrepeats, rfl, fun t ht => absurd ht (by simp)⟩
  · obtain ⟨rfl, rfl⟩ := goes_done hsigned
    obtain ⟨asked, sims, found, hes, hasked, hsims, hrepeats, hnumber⟩ :=
      goes_numbered priced_of_resolveFee hfound
    obtain ⟨first, hfirst⟩ := hnumber x rfl
    refine ⟨asked, sims, found, _, by rw [List.append_nil, hes], hasked, hsims, hrepeats, ?_, ?_⟩
    · rw [signWith_isOk]
      rfl
    · intro t ht
      exact ⟨x.1, first, x.2.1, x.2.2, hfirst, rfl, ht, sequences_of_signWith ht⟩

lemma delivers_settle {txhash : String} {r : Except Refusal TxInfo}
    (h : (w.settle d txhash).run.Goes es r) : ∀ e ∈ es, Delivers e.1 := by
  obtain ⟨x, hpolled, -⟩ := polled_of_settle h
  intro e he
  exact .inr ⟨txhash, polled_looking hpolled e he⟩

lemma delivers_submit {fee : Fee} {r : Except Refusal TxInfo}
    (h : (w.submit d number sequence fee).run.Goes es r) : ∀ e ∈ es, Delivers e.1 := by
  cases hs : w.submission? d number sequence fee with
  | none =>
    obtain ⟨f, hrun⟩ := unsigned_run hs
    rw [hrun] at h
    obtain ⟨rfl, -⟩ := goes_done h
    simp
  | some s =>
    obtain ⟨t, text, ht, htext, rfl⟩ := signed_of_submission hs
    rw [submit_run ht htext] at h
    cases h with
    | @ask _ _ response es _ h =>
    refine List.forall_mem_cons.2 ⟨.inl rfl, ?_⟩
    cases hanswer : answerOf response with
    | error e =>
      simp only [hanswer] at h
      obtain ⟨rfl, -⟩ := goes_done h
      simp
    | ok b =>
      simp only [hanswer] at h
      split at h
      · obtain ⟨rfl, -⟩ := goes_done h
        simp
      · exact delivers_settle h

lemma delivers_climb {gas : UInt64} {left : Nat} {r : Except Setback TxInfo}
    (h : (w.climb d number sequence gas left).run.Goes es r) : ∀ e ∈ es, Delivers e.1 := by
  induction left generalizing es r with
  | zero =>
    obtain ⟨x, -, hsubmit⟩ := goes_adapt h
    exact delivers_submit hsubmit
  | succ left ih =>
    obtain ⟨front, x, back, rfl, hsubmit, hrest⟩ := goes_attempt h
    refine List.forall_mem_append.2 ⟨delivers_submit hsubmit, ?_⟩
    match x with
    | .ok info =>
      obtain ⟨rfl, -⟩ := goes_pure hrest
      simp
    | .error (.insufficientFee f) => exact ih hrest
    | .error (.setback setback) =>
      obtain ⟨rfl, -⟩ := goes_throw hrest
      simp

lemma delivers_submitPlan {plan : FeePlan} {r : Except Setback TxInfo}
    (h : (w.submitPlan d number plan sequence).run.Goes es r) : ∀ e ∈ es, Delivers e.1 := by
  cases plan with
  | fixed fee =>
    obtain ⟨x, -, hsubmit⟩ := goes_adapt h
    exact delivers_submit hsubmit
  | gas gas => exact delivers_climb h

lemma delivers_tried {plan : FeePlan} {r : Except Failure (TxInfo × UInt64)}
    (h : (withSequence sequence (w.submitPlan d number plan)).run.Goes es r) :
    ∀ e ∈ es, Delivers e.1 := by
  obtain ⟨a, -, hpass⟩ | ⟨f, -, hpass⟩ | ⟨x, f, front, back, y, rfl, hfirst, hsecond, -⟩ :=
    goes_withSequence h
  · exact delivers_submitPlan hpass
  · exact delivers_submitPlan hpass
  · exact List.forall_mem_append.2 ⟨delivers_submitPlan hfirst, delivers_submitPlan hsecond⟩

variable {fees : List Fee} {subs : List (Submission × Response)}

lemma pass_begins {x : Option UInt64} (h : Pass w d number sequence fees subs x) :
    subs.head?.isSome = (signable d.body d.mode && d.body.toProto.isOk) := by
  cases h with
  | @unsigned fee _ hs =>
    rw [← submission?_isSome w d number sequence fee, hs]
    rfl
  | @final fee _ s response hs hv
  | @mismatch fee _ s response x hs hv
  | @highest fee s response hs hv
  | @higher fee _ _ s response _ _ hs hv hrest =>
    rw [← submission?_isSome w d number sequence fee, hs]
    rfl

/-- The first transaction of a broadcast, if the draft can be signed at all, is at the sequence that
the broadcast begins with. -/
lemma passes_begin (h : Passes w d number sequence fees subs) :
    subs.head?.isSome = (signable d.body d.mode && d.body.toProto.isOk) ∧
      ∀ s ∈ subs.head?, w.submission? d number sequence s.1.fee = some s.1 := by
  cases h with
  | once h => exact ⟨pass_begins h, fun s hs => (submission_of_pass h s (List.mem_of_head? hs)).1⟩
  | twice hfirst hsecond =>
    obtain ⟨front, s, rfl, -⟩ := mismatch_of_pass hfirst
    rw [List.head?_append_of_ne_nil _ (by simp)]
    exact ⟨pass_begins hfirst, fun s hs => (submission_of_pass hfirst s (List.mem_of_head? hs)).1⟩

lemma goes_broadcastPriced {r : Except Failure TxInfo} (h : (w.broadcast d).run.Goes es r) :
    ∃ asked sims rest found used, es = asked ++ sims ++ rest ∧ Resolved w d asked found ∧
      After found (fun numbers => Priced w d numbers.2) sims used ∧ Repeats w d sims ∧
      (∀ e ∈ rest, Delivers e.1) ∧
      (used = none → rest = [] ∧ ∃ f, r = .error f) ∧
      (handed es).head?.isSome =
        (used.isSome && (signable d.body d.mode && d.body.toProto.isOk)) ∧
      ∀ e ∈ (handed es).head?, ∃ number first fee n t text, found = some (number, first) ∧
        used = some n ∧ w.signWith d fee number n = .ok t ∧ t.toBase64 = .ok text ∧
        e.1 = handing text ∧ t.sequences = [n] := by
  obtain ⟨f, rfl, hopening⟩ | ⟨front, back, number, plan, n, x, rfl, hopening, htried, rfl⟩ :=
    goes_opened h
  · obtain ⟨asked, sims, found, hes, hasked, hsims, hrepeats, -⟩ :=
      goes_numbered priced_of_plan hopening
    refine ⟨asked, sims, [], found, none, by rw [List.append_nil, hes], hasked, hsims, hrepeats,
      by simp, fun _ => ⟨rfl, f, rfl⟩, ?_⟩
    rw [(goes_opening hopening).1]
    simp
  · obtain ⟨asked, sims, found, rfl, hasked, hsims, hrepeats, hnumber⟩ :=
      goes_numbered priced_of_plan hopening
    obtain ⟨first, rfl⟩ := hnumber _ rfl
    obtain ⟨subs, hback, hpasses⟩ := goes_passes htried
    obtain ⟨hsome, hhead⟩ := passes_begin hpasses
    refine ⟨asked, sims, back, _, some n, rfl, hasked, hsims, hrepeats, delivers_tried htried,
      by simp, ?_⟩
    rw [handed_append, (goes_opening hopening).1, List.nil_append, hback, exchangesOf,
      List.head?_map]
    refine ⟨by rw [Option.isSome_map, hsome]; rfl, ?_⟩
    intro e he
    obtain ⟨s, hs, rfl⟩ := Option.map_eq_some_iff.1 he
    obtain ⟨t, text, ht, htext, hsubmission⟩ := signed_of_submission (hhead s hs)
    exact ⟨number, first, s.1.fee, n, t, text, rfl, rfl, ht, htext,
      congrArg Submission.request hsubmission, sequences_of_signWith ht⟩

/-- Against whatever answers its requests, a wallet asks for its account only for what it needs and
the draft leaves open, and what the draft gives comes first. It simulates the draft twice at most,
and once unless the first answer is an error that names a sequence; a draft with a fee or a limit of
gas is simulated only to estimate its fee. What is created, signed or handed over first is at the
sequence of the simulation that succeeded, or else at the one that was found. An account that does
not exist is simulated at 0, but where a draft is to be signed nothing more is asked for. -/
theorem sequence_resolution {σ : Type} (w : Wallet) (d : TxDraft)
    (respond : σ → Request → Response × σ) (pause : σ → Nat → σ) (s : σ) :
    (∃ asked sims found used, (w.estimateFee d).run.log respond pause s = asked ++ sims ∧
      Started w d asked found ∧ After found (Simulated w d) sims used ∧ Repeats w d sims ∧
      ((w.estimateFee d).run.run respond pause s).1.isOk = used.isSome) ∧
    (∃ asked sims found used, (w.createTx d).run.log respond pause s = asked ++ sims ∧
      Started w d asked found ∧ After found (Priced w d) sims used ∧ Repeats w d sims ∧
      ((w.createTx d).run.run respond pause s).1.toOption.map Tx.sequences =
        used.map fun n => [n]) ∧
    (∃ asked sims found used, (w.createAndSign d).run.log respond pause s = asked ++ sims ∧
      Resolved w d asked found ∧ After found (fun numbers => Priced w d numbers.2) sims used ∧
      Repeats w d sims ∧
      ((w.createAndSign d).run.run respond pause s).1.isOk =
        (used.isSome && signable d.body d.mode) ∧
      ∀ t, ((w.createAndSign d).run.run respond pause s).1 = .ok t →
        ∃ number first fee n, found = some (number, first) ∧ used = some n ∧
          w.signWith d fee number n = .ok t ∧ t.sequences = [n]) ∧
    ∃ asked sims rest found used,
      (w.broadcast d).run.log respond pause s = asked ++ sims ++ rest ∧
      Resolved w d asked found ∧ After found (fun numbers => Priced w d numbers.2) sims used ∧
      Repeats w d sims ∧ (∀ e ∈ rest, Delivers e.1) ∧
      (used = none → rest = [] ∧ ∃ f, ((w.broadcast d).run.run respond pause s).1 = .error f) ∧
      (handed ((w.broadcast d).run.log respond pause s)).head?.isSome =
        (used.isSome && (signable d.body d.mode && d.body.toProto.isOk)) ∧
      ∀ e ∈ (handed ((w.broadcast d).run.log respond pause s)).head?,
        ∃ number first fee n t text, found = some (number, first) ∧ used = some n ∧
          w.signWith d fee number n = .ok t ∧ t.toBase64 = .ok text ∧ e.1 = handing text ∧
          t.sequences = [n] := by
  refine ⟨goes_estimateFee ?_, goes_createTx ?_, goes_createAndSign ?_, goes_broadcastPriced ?_⟩
  · exact goes_run respond pause _ s
  · exact goes_run respond pause _ s
  · exact goes_run respond pause _ s
  · exact goes_run respond pause _ s

lemma createTx_goes {x : Except Failure (Fee × UInt64)} (hsequence : d.sequence = some sequence)
    (hfee : d.fee = none) (hgas : d.gasLimit = none)
    (h : (w.estimateWithSequence d sequence).run.Goes es x) :
    (w.createTx d).run.Goes es (x.map fun y => Client.unsignedTx d y.1 [w.signerData y.2]) := by
  unfold createTx simulationSequence resolveFee
  rw [hsequence, hfee, hgas]
  cases x with
  | ok y =>
    exact h.bind_of_nil (f := ExceptT.bindCont fun y =>
      pure (Client.unsignedTx d y.1 [w.signerData y.2])) (.done _)
  | error f =>
    exact h.bind_of_nil (f := ExceptT.bindCont fun y =>
      pure (Client.unsignedTx d y.1 [w.signerData y.2])) (.done _)

/-- A payment at the sequence 5 without a fee. -/
def openDraft : TxDraft := { settledDraft with fee := none }

def mismatched : Response :=
  .error (.endpoint "http://lcd0" 400 3 "account sequence mismatch, expected 6, got 5")

def simulated : Response :=
  .ok ⟨"http://lcd0", "\x7b\"gas_info\":\x7b\"gas_wanted\":\"0\",\"gas_used\":\"100\"\x7d\x7d"⟩

theorem openDraft_resimulated :
    let course := (plainWallet.createTx openDraft).run
    let answer := Course.replay simulated
    ∃ q q', plainWallet.simulation? openDraft 5 = some q ∧
      plainWallet.simulation? openDraft 6 = some q' ∧
      course.log answer (fun script _ => script) [mismatched, simulated] =
        [(q, mismatched), (q', simulated)] ∧
      (course.run answer (fun script _ => script) [mismatched, simulated]).1.toOption.map Tx.sequences =
        some [6] := by
  intro course answer
  obtain ⟨q, hq⟩ := Option.isSome_iff_exists.1
    (show (plainWallet.simulation? openDraft 5).isSome by decide +kernel)
  obtain ⟨q', hq'⟩ := Option.isSome_iff_exists.1
    (show (plainWallet.simulation? openDraft 6).isSome by decide +kernel)
  have hnamed : Setback.expected? "account sequence mismatch, expected 6, got 5" = some 6 := by
    decide +kernel
  obtain ⟨gas, hgas⟩ : ∃ gas, gasOf simulated = .ok gas := isOk_iff.1 (by decide +kernel)
  obtain ⟨f, hfirst⟩ : ∃ f, (plainWallet.estimateAt openDraft 5).run.Goes [(q, mismatched)]
      (.error ⟨some 6, f⟩) := by
    rw [← hnamed]
    exact ⟨_, estimateAt_goes hq⟩
  have hsecond : (plainWallet.estimateAt openDraft 6).run.Goes [(q', simulated)] _ :=
    estimateAt_goes hq'
  have hgoes := createTx_goes (d := openDraft) rfl rfl rfl
    (withSequence_goes_again _ hfirst hsecond)
  have hes : course.log answer (fun script _ => script) [mismatched, simulated] =
      [(q, mismatched), (q', simulated)] := Course.log_replay hgoes simulated
  obtain ⟨-, ⟨asked, sims, found, used, hlog, hstarted, hafter, -, hsequences⟩, -⟩ :=
    sequence_resolution plainWallet openDraft answer (fun script _ => script) [mismatched, simulated]
  refine ⟨q, q', hq, hq', hes, hsequences.trans ?_⟩
  cases hstarted with
  | asked hopen => exact absurd hopen (by simp [openDraft, settledDraft])
  | given hsequence =>
    obtain rfl := Option.some.inj hsequence
    obtain rfl : sims = [(q, mismatched), (q', simulated)] := hlog.symm.trans hes
    cases hafter with
    | unpriced _ _ hsims =>
      cases hsims with
      | twice _ hnamed' _ =>
        obtain rfl := Option.some.inj (hnamed.symm.trans hnamed')
        rw [hgas]
        rfl

end CosmosClient.Proofs
