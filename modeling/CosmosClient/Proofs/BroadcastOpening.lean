import Mathlib
import CosmosClient.Proofs.Exchanges
import CosmosClient.Wallet

/-!
# The opening of a broadcast

Before a wallet hands a transaction to a node it settles the number of its account, the plan of fees
and the sequence to begin with. It asks for no more than the draft leaves open, and nothing it asks
for hands over a transaction.
-/

namespace CosmosClient.Wallet

/-- Whether a request hands over a transaction. -/
def hands (q : Request) : Bool :=
  q.path == Client.txsPath && q.body.isSome

def handed {α : Type} (es : List (Request × α)) : List (Request × α) :=
  es.filter fun e => hands e.1

def accountOf (address : String) (response : Response) : Except RequestError Account :=
  match Client.contentOf Client.accountOfJson response with
  | .error e => .error e
  | .ok j =>
    match Account.ofJson j with
    | .ok a => .ok a
    | .error _ => .error (.invalidJson (Client.accountPath address) "")

/-- The request that simulates a draft at a sequence, unless it cannot be encoded. -/
def simulation? (w : Wallet) (d : TxDraft) (sequence : UInt64) : Option Request :=
  let t := Client.unsignedTx d (Fee.ofGas 0 Coins.empty) [w.signerData sequence]
  t.toBase64.toOption.map fun text =>
    { path := Client.simulatePath, body := some (.obj [("tx_bytes", .str text)]) }

def gasOf : Response → Except RequestError GasInfo :=
  Client.contentOf (Client.only "gas_info" GasInfo.ofJson)

/-- The gas to ask for when a simulation of a draft has used some. -/
def gasFor (w : Wallet) (d : TxDraft) (used : UInt64) : UInt64 :=
  Client.adjustedGas used (d.gasAdjustment.getD w.config.gasAdjustment)

/-- The numbers to sign with are those of the draft; the account is asked for what the draft leaves
open. -/
inductive Numbered (w : Wallet) (d : TxDraft) :
    List (Request × Response) → UInt64 → UInt64 → Prop where
  | given {number sequence : UInt64} (hnumber : d.accountNumber = some number)
      (hsequence : d.sequence = some sequence) : Numbered w d [] number sequence
  | asked {response : Response} {account : Account}
      (hopen : d.accountNumber = none ∨ d.sequence = none)
      (haccount : accountOf w.address.write response = .ok account) :
      Numbered w d [({ path := Client.accountPath w.address.write }, response)]
        (d.accountNumber.getD account.number) (d.sequence.getD account.sequence)

/-- The fee or the gas is that of the draft; without either the draft is simulated, and once more if
another sequence is expected. The sequence is the one of the simulation that told the gas. -/
inductive Planned (w : Wallet) (d : TxDraft) :
    UInt64 → List (Request × Response) → FeePlan → UInt64 → Prop where
  | fixed {sequence : UInt64} {fee : Fee} (hfee : d.fee = some fee) :
      Planned w d sequence [] (.fixed fee) sequence
  | gas {sequence gas : UInt64} (hfee : d.fee = none) (hgas : d.gasLimit = some gas) :
      Planned w d sequence [] (.gas gas) sequence
  | simulated {sequence : UInt64} {q : Request} {response : Response} {gas : GasInfo}
      (hfee : d.fee = none) (hgas : d.gasLimit = none) (hq : w.simulation? d sequence = some q)
      (hresponse : gasOf response = .ok gas) :
      Planned w d sequence [(q, response)] (.gas (w.gasFor d gas.used)) sequence
  | again {sequence expected : UInt64} {q q' : Request} {response response' : Response}
      {url message : String} {status : Nat} {code : Int} {gas : GasInfo} (hfee : d.fee = none)
      (hgas : d.gasLimit = none) (hq : w.simulation? d sequence = some q)
      (hresponse : gasOf response = .error (.endpoint url status code message))
      (hexpected : Setback.expected? message = some expected)
      (hq' : w.simulation? d expected = some q') (hresponse' : gasOf response' = .ok gas) :
      Planned w d sequence [(q, response), (q', response')] (.gas (w.gasFor d gas.used)) expected

/-- What is settled before the first transaction is handed over: the number of the account, the plan
of fees and the first sequence. -/
def opening (w : Wallet) (d : TxDraft) : ExceptT Failure Program (UInt64 × FeePlan × UInt64) := do
  let (number, sequence) ← w.signingNumbers d
  let (plan, sequence) ← w.plan d sequence
  return (number, plan, sequence)

end CosmosClient.Wallet

namespace CosmosClient.Proofs
open Course (Goes)
open Wallet

variable {α : Type} {w : Wallet} {d : TxDraft} {number sequence : UInt64}
  {es : List (Request × Response)}

lemma handed_append (es fs : List (Request × α)) : handed (es ++ fs) = handed es ++ handed fs :=
  List.filter_append ..

lemma handed_cons_of_hands {e : Request × α} {es : List (Request × α)} (h : hands e.1) :
    handed (e :: es) = e :: handed es :=
  List.filter_cons_of_pos h

lemma handed_cons_of_not_hands {e : Request × α} {es : List (Request × α)} (h : ¬hands e.1) :
    handed (e :: es) = handed es :=
  List.filter_cons_of_neg h

lemma goes_account {address : String} {r : Except RequestError Account}
    (h : (Client.account address).run.Goes es r) :
    ∃ response, es = [({ path := Client.accountPath address }, response)] ∧
      r = accountOf address response := by
  obtain ⟨e, rfl, hget⟩ | ⟨front, j, back, rfl, hget, hread⟩ := goes_bindExcept h
  · obtain ⟨response, rfl, hcontent⟩ := goes_fetch hget
    exact ⟨response, rfl, by rw [accountOf, ← hcontent]⟩
  · obtain ⟨response, rfl, hcontent⟩ := goes_fetch hget
    refine ⟨response, ?_⟩
    rw [accountOf, ← hcontent]
    cases hj : Account.ofJson j with
    | ok a =>
      simp only [hj] at hread
      obtain ⟨rfl, rfl⟩ := goes_pure hread
      exact ⟨rfl, by simp only [hj]⟩
    | error fault =>
      simp only [hj] at hread
      obtain ⟨rfl, rfl⟩ := goes_throw hread
      exact ⟨rfl, by simp only [hj]⟩

lemma goes_numbers {r : Except Failure (UInt64 × UInt64)} (h : w.numbers.run.Goes es r) :
    ∃ response, es = [({ path := Client.accountPath w.address.write }, response)] ∧
      r.toOption = (accountOf w.address.write response).toOption.map fun account =>
        (account.number, account.sequence) := by
  obtain ⟨e, rfl, haccount⟩ | ⟨front, account, back, rfl, haccount, hdone⟩ := goes_bindExcept h
  · obtain ⟨x, hx, haccount⟩ := goes_adapt haccount
    obtain ⟨response, rfl, rfl⟩ := goes_account haccount
    obtain ⟨fault, hfault, -⟩ := mapError_eq_error.1 hx.symm
    exact ⟨response, rfl, by rw [hfault]; rfl⟩
  · obtain ⟨x, hx, haccount⟩ := goes_adapt haccount
    obtain ⟨response, rfl, rfl⟩ := goes_account haccount
    obtain ⟨rfl, rfl⟩ := goes_pure hdone
    exact ⟨response, rfl, by rw [mapError_eq_ok.1 hx.symm]; rfl⟩

/-- A draft without both numbers lacks one of them. -/
lemma open_of_ungiven
    (h : ∀ n s, d.accountNumber = some n → d.sequence = some s → False) :
    d.accountNumber = none ∨ d.sequence = none := by
  cases hnumber : d.accountNumber with
  | none => exact .inl rfl
  | some n =>
    cases hsequence : d.sequence with
    | none => exact .inr rfl
    | some s => exact absurd hsequence (h n s hnumber)

lemma goes_signingNumbers {r : Except Failure (UInt64 × UInt64)}
    (h : (w.signingNumbers d).run.Goes es r) :
    handed es = [] ∧ ∀ number sequence, r = .ok (number, sequence) →
      Numbered w d es number sequence := by
  unfold signingNumbers at h
  split at h
  next number sequence hnumber hsequence =>
    obtain ⟨rfl, rfl⟩ := goes_pure h
    refine ⟨rfl, ?_⟩
    intro n s hr
    obtain ⟨rfl, rfl⟩ := Prod.mk.inj (Except.ok.inj hr)
    exact .given hnumber hsequence
  next number sequence hopen =>
    obtain ⟨e, rfl, hnumbers⟩ | ⟨front, numbers, back, rfl, hnumbers, hdone⟩ := goes_bindExcept h
    · obtain ⟨response, rfl, -⟩ := goes_numbers hnumbers
      exact ⟨by simp [handed, hands], fun _ _ hr => absurd hr (by simp)⟩
    · obtain ⟨response, rfl, hread⟩ := goes_numbers hnumbers
      obtain ⟨account, haccount, rfl⟩ := Option.map_eq_some_iff.1 hread.symm
      obtain ⟨rfl, rfl⟩ := goes_pure hdone
      refine ⟨by simp [handed, hands], ?_⟩
      intro n s hr
      obtain ⟨rfl, rfl⟩ := Prod.mk.inj (Except.ok.inj hr)
      exact .asked (open_of_ungiven hopen) (toOption_eq_some.1 haccount)

/-! ### The plan of fees -/

/-- A sequence is tried, and where that names another one, so is that. -/
lemma goes_withSequence {step : UInt64 → ExceptT Setback Program α} {r : Except Failure (α × UInt64)}
    (h : (withSequence sequence step).run.Goes es r) :
    (∃ a, r = .ok (a, sequence) ∧ (step sequence).run.Goes es (.ok a)) ∨
    (∃ f, r = .error f ∧ (step sequence).run.Goes es (.error ⟨none, f⟩)) ∨
    ∃ expected f front back x, es = front ++ back ∧
      (step sequence).run.Goes front (.error ⟨some expected, f⟩) ∧
      (step expected).run.Goes back x ∧
      r = (x.mapError Setback.failure).map fun a => (a, expected) := by
  obtain ⟨front, x, back, rfl, hfirst, hrest⟩ := goes_attempt h
  cases x with
  | ok a =>
    obtain ⟨rfl, rfl⟩ := goes_pure hrest
    exact .inl ⟨a, rfl, by simpa using hfirst⟩
  | error setback =>
    obtain ⟨expected, f⟩ := setback
    cases expected with
    | none =>
      obtain ⟨rfl, rfl⟩ := goes_throw hrest
      exact .inr (.inl ⟨f, rfl, by simpa using hfirst⟩)
    | some expected =>
      refine .inr (.inr ⟨expected, f, front, back, ?_⟩)
      obtain ⟨e, rfl, hsecond⟩ | ⟨second, a, last, rfl, hsecond, hdone⟩ := goes_bindExcept hrest
      · obtain ⟨x, hx, hsecond⟩ := goes_adapt hsecond
        exact ⟨x, rfl, hfirst, hsecond, by rw [← hx]; rfl⟩
      · obtain ⟨x, hx, hsecond⟩ := goes_adapt hsecond
        obtain ⟨rfl, rfl⟩ := goes_pure hdone
        exact ⟨x, rfl, hfirst, by simpa using hsecond, by rw [← hx]; rfl⟩

lemma withSequence_goes_again (step : UInt64 → ExceptT Setback Program α) {expected : UInt64}
    {f : Failure} {front back : List (Request × Response)} {x : Except Setback α}
    (hfirst : (step sequence).run.Goes front (.error ⟨some expected, f⟩))
    (hsecond : (step expected).run.Goes back x) :
    (withSequence sequence step).run.Goes (front ++ back)
      ((x.mapError Setback.failure).map fun a => (a, expected)) := by
  have hadapted := hsecond.adapt (f := Setback.failure)
  cases x with
  | ok a =>
    exact hfirst.attempt
      (hadapted.bind_of_nil (f := ExceptT.bindCont fun a => pure (a, expected)) (.done _))
  | error s =>
    exact hfirst.attempt
      (hadapted.bind_of_nil (f := ExceptT.bindCont fun a => pure (a, expected)) (.done _))

/-- A result that names no sequence is not followed by another try. -/
lemma withSequence_goes_final (step : UInt64 → ExceptT Setback Program α) {x : Except Failure α}
    (h : (step sequence).run.Goes es (x.mapError Setback.ofFailure)) :
    (withSequence sequence step).run.Goes es (x.map fun a => (a, sequence)) := by
  rw [← List.append_nil es]
  cases x with
  | ok a =>
    have hdone : (pure (a, sequence) : ExceptT Failure Program (α × UInt64)).run.Goes []
      (.ok (a, sequence)) := .done _
    exact h.attempt hdone
  | error f =>
    have hdone : (throw f : ExceptT Failure Program (α × UInt64)).run.Goes [] (.error f) := .done _
    exact h.attempt hdone

lemma simulation?_eq_some {q : Request} (h : w.simulation? d sequence = some q) :
    ∃ text, (Client.unsignedTx d (Fee.ofGas 0 Coins.empty) [w.signerData sequence]).toBase64 =
        .ok text ∧
      q = { path := Client.simulatePath, body := some (.obj [("tx_bytes", .str text)]) } := by
  obtain ⟨text, htext, rfl⟩ := Option.map_eq_some_iff.1 h
  exact ⟨text, toOption_eq_some.1 htext, rfl⟩

/-- How an estimate goes on is up to the answer to its simulation. -/
lemma estimateAt_run {q : Request} (hq : w.simulation? d sequence = some q) :
    (w.estimateAt d sequence).run = .ask q fun response => .done
      (((gasOf response).map fun gas =>
        Client.feeForGas w.config d (w.gasFor d gas.used) none).mapError fun e =>
          ⟨e.endpointMessage.bind Setback.expected?,
            e.toFailure.within "Unable to simulate transaction"⟩) := by
  obtain ⟨text, htext, rfl⟩ := simulation?_eq_some hq
  have hsimulate : (Client.simulate
      (Client.unsignedTx d (Fee.ofGas 0 Coins.empty) [w.signerData sequence])).run =
      .ask { path := Client.simulatePath, body := some (.obj [("tx_bytes", .str text)]) }
        fun response => .done (gasOf response) := by
    unfold Client.simulate
    rw [htext]
    exact fetch_run _ _
  have hestimate : (Client.estimateFee w.config [w.signerData sequence] d).run =
      .ask { path := Client.simulatePath, body := some (.obj [("tx_bytes", .str text)]) }
        fun response => .done ((gasOf response).map fun gas =>
          Client.feeForGas w.config d (w.gasFor d gas.used) none) := by
    refine (bind_asked hsimulate _).trans (congrArg (Course.ask _) ?_)
    funext response
    cases gasOf response <;> rfl
  exact congrArg (Except.mapError _ <$> ·) hestimate

lemma estimateAt_goes {q : Request} {response : Response}
    (hq : w.simulation? d sequence = some q) :
    (w.estimateAt d sequence).run.Goes [(q, response)]
      (((gasOf response).map fun gas =>
        Client.feeForGas w.config d (w.gasFor d gas.used) none).mapError fun e =>
          ⟨e.endpointMessage.bind Setback.expected?,
            e.toFailure.within "Unable to simulate transaction"⟩) := by
  rw [estimateAt_run hq]
  exact .ask (.done _)

/-- A draft that cannot be encoded is not simulated. -/
lemma unencodable_run (hq : w.simulation? d sequence = none) :
    ∃ f, (w.estimateAt d sequence).run = .done (.error ⟨none, f⟩) := by
  cases htext : (Client.unsignedTx d (Fee.ofGas 0 Coins.empty) [w.signerData sequence]).toBase64 with
  | error e =>
    have hsimulate : Client.simulate
        (Client.unsignedTx d (Fee.ofGas 0 Coins.empty) [w.signerData sequence]) =
        throw (.encode e) := by
      unfold Client.simulate
      rw [htext]
      rfl
    unfold estimateAt Client.estimateFee
    rw [hsimulate]
    exact ⟨_, rfl⟩
  | ok text => exact absurd hq (by simp [simulation?, htext, Except.toOption])

lemma goes_estimateAt {r : Except Setback Fee} (h : (w.estimateAt d sequence).run.Goes es r) :
    (w.simulation? d sequence = none ∧ es = [] ∧ ∃ f, r = .error ⟨none, f⟩) ∨
    ∃ q response, w.simulation? d sequence = some q ∧ es = [(q, response)] ∧ hands q = false ∧
      match gasOf response with
      | .ok gas => r = .ok (Client.feeForGas w.config d (w.gasFor d gas.used) none)
      | .error e => ∃ f, r = .error ⟨e.endpointMessage.bind Setback.expected?, f⟩ := by
  cases hq : w.simulation? d sequence with
  | none =>
    obtain ⟨f, hrun⟩ := unencodable_run hq
    rw [hrun] at h
    obtain ⟨rfl, rfl⟩ := goes_done h
    exact .inl ⟨rfl, rfl, f, rfl⟩
  | some q =>
    rw [estimateAt_run hq] at h
    obtain ⟨response, rfl, rfl⟩ := goes_asked h
    obtain ⟨text, -, rfl⟩ := simulation?_eq_some hq
    have hpath : (Client.simulatePath == Client.txsPath) = false := by decide
    refine .inr ⟨_, response, rfl, rfl, by rw [hands, hpath, Bool.false_and], ?_⟩
    cases gasOf response with
    | ok gas => rfl
    | error e => exact ⟨_, rfl⟩

lemma handed_estimateAt {r : Except Setback Fee} (h : (w.estimateAt d sequence).run.Goes es r) :
    handed es = [] := by
  obtain ⟨-, rfl, -⟩ | ⟨q, response, -, rfl, hq, -⟩ := goes_estimateAt h
  · rfl
  · simp [handed, hq]

lemma estimateAt_ok {fee : Fee} (h : (w.estimateAt d sequence).run.Goes es (.ok fee)) :
    ∃ q response gas, w.simulation? d sequence = some q ∧ es = [(q, response)] ∧
      gasOf response = .ok gas ∧ fee.gasLimit = w.gasFor d gas.used := by
  obtain ⟨-, -, f, hr⟩ | ⟨q, response, hq, rfl, -, hr⟩ := goes_estimateAt h
  · exact absurd hr (by simp)
  · refine ⟨q, response, ?_⟩
    cases hgas : gasOf response with
    | ok gas =>
      rw [hgas] at hr
      obtain rfl := Except.ok.inj hr
      exact ⟨gas, hq, rfl, rfl, rfl⟩
    | error e =>
      rw [hgas] at hr
      obtain ⟨f, hr⟩ := hr
      exact absurd hr (by simp)

lemma estimateAt_mismatch {expected : UInt64} {f : Failure}
    (h : (w.estimateAt d sequence).run.Goes es (.error ⟨some expected, f⟩)) :
    ∃ q response url status code message, w.simulation? d sequence = some q ∧
      es = [(q, response)] ∧ gasOf response = .error (.endpoint url status code message) ∧
      Setback.expected? message = some expected := by
  obtain ⟨-, -, f, hr⟩ | ⟨q, response, hq, rfl, -, hr⟩ := goes_estimateAt h
  · exact absurd hr (by simp)
  · refine ⟨q, response, ?_⟩
    cases hgas : gasOf response with
    | ok gas =>
      rw [hgas] at hr
      exact absurd hr (by simp)
    | error e =>
      rw [hgas] at hr
      obtain ⟨f, hr⟩ := hr
      obtain ⟨message, hmessage, hexpected⟩ :=
        Option.bind_eq_some_iff.1 (congrArg Setback.expected (Except.error.inj hr)).symm
      obtain ⟨url, status, code, rfl⟩ := RequestError.endpointMessage_eq_some.1 hmessage
      exact ⟨url, status, code, message, hq, rfl, rfl, hexpected⟩

lemma handed_estimate {r : Except Failure (Fee × UInt64)}
    (h : (w.estimateWithSequence d sequence).run.Goes es r) : handed es = [] := by
  obtain ⟨a, -, h⟩ | ⟨f, -, h⟩ | ⟨expected, f, front, back, x, rfl, hfirst, hsecond, -⟩ :=
    goes_withSequence h
  · exact handed_estimateAt h
  · exact handed_estimateAt h
  · rw [handed_append, handed_estimateAt hfirst, handed_estimateAt hsecond, List.append_nil]

lemma planned_of_estimate {fee : Fee} {first : UInt64} (hfee : d.fee = none)
    (hgas : d.gasLimit = none)
    (h : (w.estimateWithSequence d sequence).run.Goes es (.ok (fee, first))) :
    Planned w d sequence es (.gas fee.gasLimit) first := by
  obtain ⟨a, hr, h⟩ | ⟨f, hr, -⟩ | ⟨expected, f, front, back, x, rfl, hfirst, hsecond, hr⟩ :=
    goes_withSequence h
  · obtain ⟨rfl, rfl⟩ := Prod.mk.inj (Except.ok.inj hr)
    obtain ⟨q, response, gas, hq, rfl, hresponse, hlimit⟩ := estimateAt_ok h
    rw [hlimit]
    exact .simulated hfee hgas hq hresponse
  · exact absurd hr (by simp)
  · cases x with
    | error setback => exact absurd hr (by simp [Except.mapError, Except.map])
    | ok a =>
      obtain ⟨rfl, rfl⟩ := Prod.mk.inj (Except.ok.inj hr)
      obtain ⟨q, response, url, status, code, message, hq, rfl, hresponse, hexpected⟩ :=
        estimateAt_mismatch hfirst
      obtain ⟨q', response', gas, hq', rfl, hresponse', hlimit⟩ := estimateAt_ok hsecond
      rw [hlimit]
      exact .again hfee hgas hq hresponse hexpected hq' hresponse'

lemma goes_plan {r : Except Failure (FeePlan × UInt64)} (h : (w.plan d sequence).run.Goes es r) :
    handed es = [] ∧ ∀ plan first, r = .ok (plan, first) → Planned w d sequence es plan first := by
  unfold plan at h
  split at h
  next fee _ hfee =>
    obtain ⟨rfl, rfl⟩ := goes_pure h
    refine ⟨rfl, ?_⟩
    intro plan first hr
    obtain ⟨rfl, rfl⟩ := Prod.mk.inj (Except.ok.inj hr)
    exact .fixed hfee
  next gas hfee hgas =>
    obtain ⟨rfl, rfl⟩ := goes_pure h
    refine ⟨rfl, ?_⟩
    intro plan first hr
    obtain ⟨rfl, rfl⟩ := Prod.mk.inj (Except.ok.inj hr)
    exact .gas hfee hgas
  next hfee hgas =>
    obtain ⟨e, rfl, hestimate⟩ | ⟨front, estimate, back, rfl, hestimate, hdone⟩ := goes_bindExcept h
    · exact ⟨handed_estimate hestimate, fun _ _ hr => absurd hr (by simp)⟩
    · obtain ⟨rfl, rfl⟩ := goes_pure hdone
      rw [List.append_nil]
      refine ⟨handed_estimate hestimate, ?_⟩
      intro plan first hr
      obtain ⟨rfl, rfl⟩ := Prod.mk.inj (Except.ok.inj hr)
      exact planned_of_estimate hfee hgas hestimate

lemma goes_opening {r : Except Failure (UInt64 × FeePlan × UInt64)}
    (h : (w.opening d).run.Goes es r) :
    handed es = [] ∧ ∀ number plan first, r = .ok (number, plan, first) →
      ∃ front back sequence, es = front ++ back ∧ Numbered w d front number sequence ∧
        Planned w d sequence back plan first := by
  obtain ⟨e, rfl, hnumbers⟩ | ⟨front, numbers, rest, rfl, hnumbers, hrest⟩ := goes_bindExcept h
  · exact ⟨(goes_signingNumbers hnumbers).1, fun _ _ _ hr => absurd hr (by simp)⟩
  · obtain ⟨hfront, hnumbered⟩ := goes_signingNumbers hnumbers
    obtain ⟨e, rfl, hplan⟩ | ⟨back, planned, last, rfl, hplan, hdone⟩ := goes_bindExcept hrest
    · refine ⟨?_, fun _ _ _ hr => absurd hr (by simp)⟩
      rw [handed_append, hfront, (goes_plan hplan).1, List.append_nil]
    · obtain ⟨hback, hplanned⟩ := goes_plan hplan
      obtain ⟨rfl, rfl⟩ := goes_pure hdone
      refine ⟨by rw [List.append_nil, handed_append, hfront, hback, List.append_nil],
        fun number plan first hr => ?_⟩
      obtain ⟨hn, hr⟩ := Prod.mk.inj (Except.ok.inj hr)
      obtain ⟨rfl, rfl⟩ := Prod.mk.inj hr
      exact ⟨front, back, _, by rw [List.append_nil], hnumbered _ _ (by rw [← hn]),
        hplanned _ _ rfl⟩

end CosmosClient.Proofs
