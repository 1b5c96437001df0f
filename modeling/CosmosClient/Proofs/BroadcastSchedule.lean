import Mathlib
import CosmosClient.Proofs.BroadcastOpening
import CosmosClient.Proofs.Polling
import CosmosClient.Proofs.Signing

/-!
# The schedule of a broadcast

Which transactions a wallet hands to a node follows from the answers alone. The fees of a plan are
tried in their order at one sequence; a fee that does not suffice leads to the next, and the first
answer that names another sequence leads back to the first fee, at that sequence. All else ends the
broadcast.
-/

namespace CosmosClient.Wallet

/-- The request that hands over a transaction, given its text. -/
def handing (text : String) : Request :=
  { path := Client.txsPath
    body := some (.obj [("tx_bytes", .str text), ("mode", .str "BROADCAST_MODE_SYNC")]) }

/-- A transaction that is handed over. -/
structure Submission where
  fee : Fee
  sequence : UInt64
  request : Request

/-- The draft signed with a fee at a sequence, unless it cannot be signed. -/
def submission? (w : Wallet) (d : TxDraft) (number sequence : UInt64) (fee : Fee) :
    Option Submission :=
  match (w.signWith d fee number sequence).toOption.bind fun t => t.toBase64.toOption with
  | none => none
  | some text => some ⟨fee, sequence, handing text⟩

/-- What an answer to a transaction means for the broadcast. -/
inductive Verdict where
  /-- A higher fee may do. -/
  | underpriced
  /-- Another sequence may do. -/
  | mismatch (expected : UInt64)
  | final
  deriving DecidableEq

/-- What a node says of a transaction that is handed over. -/
def answerOf : Response → Except RequestError Broadcast :=
  Client.contentOf (Client.only "tx_response" Broadcast.ofJson)

/-- What an answer to a transaction means for the broadcast of a draft. -/
def verdict (d : TxDraft) (response : Response) : Verdict :=
  match answerOf response with
  | .error _ => .final
  | .ok b =>
    if d.skipCodeCheck ∨ b.code = 0 then .final
    else if b.code = 13 then .underpriced
    else
      match Setback.expected? b.rawLog with
      | some x => .mismatch x
      | none => .final

/-- The fees of a plan in the order in which they are tried. -/
def ladder (w : Wallet) (d : TxDraft) : FeePlan → List Fee
  | .fixed fee => [fee]
  | .gas amount =>
    let attempts := w.config.gasPriceRetries
    (List.range (attempts.toNat + 1)).map fun i =>
      Client.feeForGas w.config d amount
        (some (priceMultiplier (UInt64.ofNat i) attempts w.config.gasPriceMaxMultiplier))

/-- Where a broadcast stands: the fees that are left, the sequence, and whether there was another
sequence before. -/
structure Cursor where
  fees : List Fee
  sequence : UInt64
  restarted : Bool

/-- Where a broadcast stands after an answer, unless it has ended. -/
def Cursor.next (fees : List Fee) (c : Cursor) : Verdict → Option Cursor
  | .underpriced =>
    match c.fees with
    | _ :: fee :: rest => some { c with fees := fee :: rest }
    | _ => none
  | .mismatch x => if c.restarted then none else some ⟨fees, x, true⟩
  | .final => none

/-- The transaction to hand over next. -/
def Cursor.submission? (w : Wallet) (d : TxDraft) (number : UInt64) (c : Cursor) :
    Option Submission :=
  c.fees.head?.bind (w.submission? d number c.sequence)

/-- The transactions handed over, given the answers to them. -/
def schedule (w : Wallet) (d : TxDraft) (number : UInt64) (fees : List Fee) :
    List Response → Cursor → List Submission
  | [], c => (c.submission? w d number).toList
  | response :: responses, c =>
    match c.submission? w d number with
    | none => []
    | some s =>
      match c.next fees (verdict d response) with
      | none => [s]
      | some c => s :: schedule w d number fees responses c

/-- What follows once the node has accepted a transaction. -/
def settle (w : Wallet) (d : TxDraft) (txhash : String) : ExceptT Refusal Program TxInfo := do
  let info ← (Client.waitForTx w.config txhash).adapt Refusal.ofFailure
  if ¬d.skipCodeCheck ∧ ¬info.isSuccess then
    let code := Number.write (info.code.getD 0).toNat
    throw (Refusal.ofFailure
      (Failure.text s!"Transaction failed with code {code}. Raw log: {info.rawLog}"))
  else return info

/-- What a report on the transaction of a draft means for the broadcast. -/
def judge (d : TxDraft) (info : TxInfo) : Except Failure TxInfo :=
  if d.skipCodeCheck ∨ info.isSuccess then .ok info
  else
    let code := Number.write (info.code.getD 0).toNat
    .error (Failure.text s!"Transaction failed with code {code}. Raw log: {info.rawLog}")

end CosmosClient.Wallet

namespace CosmosClient.Proofs
open Course (Goes)
open Client (Polled looking)
open Wallet

variable {α : Type} {w : Wallet} {d : TxDraft} {number sequence : UInt64}
  {es : List (Request × Response)}

lemma broadcast_eq (w : Wallet) (d : TxDraft) : w.broadcast d = do
    let (number, plan, sequence) ← w.opening d
    return (← withSequence sequence (w.submitPlan d number plan)).1 := by
  simp only [broadcast, opening, bind_assoc, pure_bind]

/-- A look for a transaction hands nothing over. -/
lemma handed_polled {txhash : String} {attempts : Nat} {x : Except Failure TxInfo}
    (h : Polled txhash attempts es x) : handed es = [] := by
  refine List.filter_eq_nil_iff.2 fun e he => ?_
  rw [polled_looking h e he]
  simp [hands, looking]

lemma sendTx_run {t : Tx} {text : String} (htext : t.toBase64 = .ok text) :
    (Client.sendTx t .sync).run = .ask (handing text) fun response =>
      .done ((answerOf response).mapError
        fun e => e.toFailure.within "Unable to broadcast transaction") := by
  have hpost := fetch_run (Client.only "tx_response" Broadcast.ofJson) (handing text)
  unfold Client.sendTx
  rw [htext]
  exact congrArg (Except.mapError _ <$> ·) hpost

/-- Nothing is waited for once a transaction has been checked. -/
lemma broadcast_sync (c : ClientConfig) (t : Tx) :
    Client.broadcast c t .sync = Client.sendTx t .sync := by
  have hmode (b : Broadcast) : BroadcastMode.sync ≠ .block ∨ ¬b.isSuccess := .inl (by decide)
  simp only [Client.broadcast, hmode, if_true, bind_pure]

/-- What the result of a submission means for the broadcast. -/
def outcome : Except Refusal TxInfo → Verdict
  | .ok _ => .final
  | .error (.insufficientFee _) => .underpriced
  | .error (.setback ⟨some x, _⟩) => .mismatch x
  | .error (.setback ⟨none, _⟩) => .final

/-- The results of a submission, one for each meaning. -/
lemma result_of_outcome (r : Except Refusal TxInfo) :
    match outcome r with
    | .underpriced => ∃ f, r = .error (.insufficientFee f)
    | .mismatch x => ∃ f, r = .error (.setback ⟨some x, f⟩)
    | .final => (∃ info, r = .ok info) ∨ ∃ f, r = .error (.setback ⟨none, f⟩) := by
  match r with
  | .ok info => exact .inl ⟨info, rfl⟩
  | .error (.insufficientFee f) => exact ⟨f, rfl⟩
  | .error (.setback ⟨some x, f⟩) => exact ⟨f, rfl⟩
  | .error (.setback ⟨none, f⟩) => exact .inr ⟨f, rfl⟩

lemma outcome_refusal {b : Broadcast} (hcode : b.code ≠ 0) (hskip : d.skipCodeCheck = false)
    {response : Response} (hb : answerOf response = .ok b) :
    outcome (.error (refusal b)) = verdict d response := by
  have hcheck : ¬(d.skipCodeCheck ∨ b.code = 0) := by simp [hskip, hcode]
  simp only [verdict, hb, if_neg hcheck, refusal]
  by_cases hfee : b.code = Refusal.insufficientFeeCode
  · rw [if_pos hfee, if_pos (show b.code = 13 from hfee)]
    rfl
  · rw [if_neg hfee, if_neg (show ¬b.code = 13 from hfee)]
    cases Setback.expected? b.rawLog <;> rfl

lemma settle_eq (w : Wallet) (d : TxDraft) (txhash : String) :
    w.settle d txhash = (Client.waitForTx w.config txhash).adapt Refusal.ofFailure >>= fun info =>
      ExceptT.mk (.done ((judge d info).mapError Refusal.ofFailure)) := by
  refine congrArg (_ >>= ·) (funext fun info => ?_)
  unfold judge
  by_cases hfailed : ¬d.skipCodeCheck ∧ ¬info.isSuccess
  · rw [if_pos hfailed, if_neg (not_or.2 hfailed)]
    rfl
  · rw [if_neg hfailed, if_pos (by tauto)]
    rfl

lemma polled_of_settle {txhash : String} {r : Except Refusal TxInfo}
    (h : (w.settle d txhash).run.Goes es r) :
    ∃ x, Polled txhash w.config.transactionAttempts.toNat es x ∧
      r = (x.bind (judge d)).mapError Refusal.ofFailure := by
  rw [settle_eq] at h
  obtain ⟨e, rfl, hwait⟩ | ⟨front, info, back, rfl, hwait, hdone⟩ := goes_bindExcept h
  · obtain ⟨x, hx, hwaited⟩ := goes_adapt hwait
    obtain ⟨f, rfl, rfl⟩ := mapError_eq_error.1 hx.symm
    exact ⟨.error f, goes_waitFor hwaited, rfl⟩
  · obtain ⟨x, hx, hwaited⟩ := goes_adapt hwait
    obtain rfl := mapError_eq_ok.1 hx.symm
    obtain ⟨rfl, rfl⟩ := goes_done hdone
    rw [List.append_nil]
    exact ⟨.ok info, goes_waitFor hwaited, rfl⟩

/-- Once a transaction is accepted, the broadcast goes on to the next one in no case. -/
lemma goes_settle {txhash : String} {r : Except Refusal TxInfo}
    (h : (w.settle d txhash).run.Goes es r) : handed es = [] ∧ outcome r = .final := by
  obtain ⟨x, hpolled, rfl⟩ := polled_of_settle h
  refine ⟨handed_polled hpolled, ?_⟩
  cases x.bind (judge d) <;> rfl

lemma submission?_eq_some {fee : Fee} {t : Tx} {text : String}
    (ht : w.signWith d fee number sequence = .ok t) (htext : t.toBase64 = .ok text) :
    w.submission? d number sequence fee = some ⟨fee, sequence, handing text⟩ := by
  rw [Wallet.submission?, ht]
  simp only [Except.toOption, Option.bind_some, htext]

lemma signed_of_submission {fee : Fee} {s : Submission}
    (hs : w.submission? d number sequence fee = some s) :
    ∃ t text, w.signWith d fee number sequence = .ok t ∧ t.toBase64 = .ok text ∧
      s = ⟨fee, sequence, handing text⟩ := by
  unfold Wallet.submission? at hs
  cases ht : w.signWith d fee number sequence with
  | error f => simp [ht, Except.toOption] at hs
  | ok t =>
    cases htext : t.toBase64 with
    | error e => simp [ht, htext, Except.toOption] at hs
    | ok text =>
      simp only [ht, htext, Except.toOption, Option.bind_some] at hs
      exact ⟨t, text, rfl, htext, (Option.some.inj hs).symm⟩

/-- Whether a draft can be signed does not depend on the fee or the sequence. -/
lemma submission?_isSome (w : Wallet) (d : TxDraft) (number sequence : UInt64) (fee : Fee) :
    (w.submission? d number sequence fee).isSome =
      (signable d.body d.mode && d.body.toProto.isOk) := by
  have hok := signTx_isOk w.key (Client.unsignedTx d fee [w.signerData sequence])
    ⟨w.config.chainId, number, sequence, d.mode⟩
  have hbody := signTx_body w.key (Client.unsignedTx d fee [w.signerData sequence])
    ⟨w.config.chainId, number, sequence, d.mode⟩
  unfold Wallet.submission? Wallet.signWith
  generalize hsigned : w.key.signTx (Client.unsignedTx d fee [w.signerData sequence])
    ⟨w.config.chainId, number, sequence, d.mode⟩ = signed at hok hbody
  obtain ⟨t, result⟩ := signed
  have htext : t.toBase64.isOk = d.body.toProto.isOk := by
    have ht : t.body = d.body := hbody
    rw [toBase64_isOk, ht]
  have hsignable : result.isOk = signable d.body d.mode := hok
  rw [← hsignable, ← htext]
  cases result with
  | error e => rfl
  | ok done => cases ht : t.toBase64 <;> simp [Except.map, Except.toOption, Except.isOk, Except.toBool, ht]

lemma submit_eq {fee : Fee} {t : Tx} (ht : w.signWith d fee number sequence = .ok t) :
    w.submit d number sequence fee = (Client.sendTx t .sync).adapt Refusal.ofFailure >>= fun b =>
      if ¬d.skipCodeCheck ∧ ¬b.isSuccess then throw (refusal b) else w.settle d b.txhash := by
  unfold submit
  rw [ht]
  simp only [broadcast_sync]
  rfl

/-- How a submission goes on is up to the answer to its transaction. -/
lemma submit_run {fee : Fee} {t : Tx} {text : String}
    (ht : w.signWith d fee number sequence = .ok t) (htext : t.toBase64 = .ok text) :
    (w.submit d number sequence fee).run = .ask (handing text) fun response =>
      match answerOf response with
      | .error e =>
        .done (.error (Refusal.ofFailure (e.toFailure.within "Unable to broadcast transaction")))
      | .ok b =>
        if ¬d.skipCodeCheck ∧ ¬b.isSuccess then .done (.error (refusal b))
        else (w.settle d b.txhash).run := by
  have hsend : ((Client.sendTx t .sync).adapt Refusal.ofFailure).run =
      .ask (handing text) fun response => .done (((answerOf response).mapError fun e =>
        e.toFailure.within "Unable to broadcast transaction").mapError Refusal.ofFailure) :=
    congrArg (Except.mapError _ <$> ·) (sendTx_run htext)
  rw [submit_eq ht]
  refine (bind_asked hsend _).trans (congrArg (Course.ask _) ?_)
  funext response
  cases answerOf response with
  | error e => rfl
  | ok b =>
    show (if _ then _ else _ : ExceptT Refusal Program TxInfo).run = if _ then _ else _
    split <;> rfl

/-- A transaction that cannot be signed or encoded is not handed over. -/
lemma unsigned_run {fee : Fee} (hs : w.submission? d number sequence fee = none) :
    ∃ f, (w.submit d number sequence fee).run = .done (.error (Refusal.ofFailure f)) := by
  cases ht : w.signWith d fee number sequence with
  | error f =>
    unfold submit
    rw [ht]
    exact ⟨f, rfl⟩
  | ok t =>
    cases htext : t.toBase64 with
    | error e =>
      have hsend : Client.sendTx t .sync = throw e.toFailure := by
        unfold Client.sendTx
        rw [htext]
        rfl
      rw [submit_eq ht, hsend]
      exact ⟨e.toFailure, rfl⟩
    | ok text => exact absurd hs (by rw [submission?_eq_some ht htext]; simp)

/-- A submission hands over one transaction at most, and ends as the answer to it says. -/
lemma goes_submit {fee : Fee} {r : Except Refusal TxInfo}
    (h : (w.submit d number sequence fee).run.Goes es r) :
    (w.submission? d number sequence fee = none ∧ handed es = [] ∧ outcome r = .final) ∨
    ∃ s response, w.submission? d number sequence fee = some s ∧
      handed es = [(s.request, response)] ∧ outcome r = verdict d response := by
  cases hs : w.submission? d number sequence fee with
  | none =>
    obtain ⟨f, hrun⟩ := unsigned_run hs
    rw [hrun] at h
    obtain ⟨rfl, rfl⟩ := goes_done h
    exact .inl ⟨rfl, rfl, rfl⟩
  | some s =>
    obtain ⟨t, text, ht, htext, rfl⟩ := signed_of_submission hs
    rw [submit_run ht htext] at h
    have hhands : hands (handing text) := rfl
    cases h with
    | @ask _ _ response es _ h =>
    refine .inr ⟨_, response, rfl, ?_⟩
    rw [handed_cons_of_hands hhands]
    cases hanswer : answerOf response with
    | error e =>
      simp only [hanswer] at h
      obtain ⟨rfl, rfl⟩ := goes_done h
      exact ⟨rfl, by rw [verdict, hanswer]; rfl⟩
    | ok b =>
      simp only [hanswer] at h
      by_cases hrefused : ¬d.skipCodeCheck ∧ ¬b.isSuccess
      · rw [if_pos hrefused] at h
        obtain ⟨rfl, rfl⟩ := goes_done h
        have hcode : b.code ≠ 0 := by simpa [Broadcast.isSuccess] using hrefused.2
        exact ⟨rfl, outcome_refusal hcode (by simpa using hrefused.1) hanswer⟩
      · rw [if_neg hrefused] at h
        obtain ⟨hsettled, hfinal⟩ := goes_settle h
        have haccepted : d.skipCodeCheck ∨ b.code = 0 := by
          simp only [Broadcast.isSuccess, beq_iff_eq] at hrefused
          tauto
        rw [hsettled, hfinal, verdict, hanswer]
        simp only [haccepted, if_true, and_self]

/-- The transactions handed over at one sequence with their answers, and the sequence that ends the
pass if one is named. -/
inductive Pass (w : Wallet) (d : TxDraft) (number sequence : UInt64) :
    List Fee → List (Submission × Response) → Option UInt64 → Prop where
  | unsigned {fee : Fee} {rest : List Fee}
      (hs : w.submission? d number sequence fee = none) : Pass w d number sequence (fee :: rest) [] none
  | final {fee : Fee} {rest : List Fee} {s : Submission} {response : Response}
      (hs : w.submission? d number sequence fee = some s) (hv : verdict d response = .final) :
      Pass w d number sequence (fee :: rest) [(s, response)] none
  | mismatch {fee : Fee} {rest : List Fee} {s : Submission} {response : Response} {x : UInt64}
      (hs : w.submission? d number sequence fee = some s)
      (hv : verdict d response = .mismatch x) :
      Pass w d number sequence (fee :: rest) [(s, response)] (some x)
  | highest {fee : Fee} {s : Submission} {response : Response}
      (hs : w.submission? d number sequence fee = some s)
      (hv : verdict d response = .underpriced) : Pass w d number sequence [fee] [(s, response)] none
  | higher {fee fee' : Fee} {rest : List Fee} {s : Submission} {response : Response}
      {subs : List (Submission × Response)} {x : Option UInt64}
      (hs : w.submission? d number sequence fee = some s)
      (hv : verdict d response = .underpriced)
      (hrest : Pass w d number sequence (fee' :: rest) subs x) :
      Pass w d number sequence (fee :: fee' :: rest) ((s, response) :: subs) x

def exchangesOf (subs : List (Submission × Response)) : List (Request × Response) :=
  subs.map fun s => (s.1.request, s.2)

/-- The sequence that a result says is expected. -/
def expectedOf : Except Setback α → Option UInt64
  | .ok _ => none
  | .error s => s.expected

/-- The fees of a climb that has a number of attempts left before the highest one. -/
def rungs (w : Wallet) (d : TxDraft) (gas : UInt64) : Nat → List Fee
  | 0 => [Client.feeForGas w.config d gas (some w.config.gasPriceMaxMultiplier)]
  | left + 1 =>
    let attempts := w.config.gasPriceRetries
    Client.feeForGas w.config d gas (some (priceMultiplier (attempts - UInt64.ofNat (left + 1))
      attempts w.config.gasPriceMaxMultiplier)) :: rungs w d gas left

lemma goes_highest {fee : Fee} {r : Except Setback TxInfo}
    (h : ((w.submit d number sequence fee).adapt Refusal.toSetback).run.Goes es r) :
    ∃ subs, handed es = exchangesOf subs ∧ Pass w d number sequence [fee] subs (expectedOf r) := by
  obtain ⟨x, rfl, hsubmit⟩ := goes_adapt h
  obtain ⟨hs, hes, hx⟩ | ⟨s, response, hs, hes, hx⟩ := goes_submit hsubmit
  · have hresult := result_of_outcome x
    rw [hx] at hresult
    obtain ⟨info, rfl⟩ | ⟨f, rfl⟩ := hresult
    · exact ⟨[], hes, .unsigned hs⟩
    · exact ⟨[], hes, .unsigned hs⟩
  · have hresult := result_of_outcome x
    rw [hx] at hresult
    refine ⟨[(s, response)], hes, ?_⟩
    cases hverdict : verdict d response with
    | underpriced =>
      rw [hverdict] at hresult
      obtain ⟨f, rfl⟩ := hresult
      exact .highest hs hverdict
    | mismatch x =>
      rw [hverdict] at hresult
      obtain ⟨f, rfl⟩ := hresult
      exact .mismatch hs hverdict
    | final =>
      rw [hverdict] at hresult
      obtain ⟨info, rfl⟩ | ⟨f, rfl⟩ := hresult
      · exact .final hs hverdict
      · exact .final hs hverdict

lemma rungs_eq_cons (w : Wallet) (d : TxDraft) (gas : UInt64) (left : Nat) :
    ∃ fee rest, rungs w d gas left = fee :: rest := by
  cases left with
  | zero => exact ⟨_, _, rfl⟩
  | succ left => exact ⟨_, _, rfl⟩

lemma goes_climb {gas : UInt64} {left : Nat} {r : Except Setback TxInfo}
    (h : (w.climb d number sequence gas left).run.Goes es r) :
    ∃ subs, handed es = exchangesOf subs ∧
      Pass w d number sequence (rungs w d gas left) subs (expectedOf r) := by
  induction left generalizing es r with
  | zero => exact goes_highest h
  | succ left ih =>
    obtain ⟨front, x, back, rfl, hsubmit, hrest⟩ := goes_attempt h
    rw [handed_append, rungs]
    obtain ⟨hs, hes, hx⟩ | ⟨s, response, hs, hes, hx⟩ := goes_submit hsubmit
    · have hresult := result_of_outcome x
      rw [hx] at hresult
      obtain ⟨info, rfl⟩ | ⟨f, rfl⟩ := hresult
      · obtain ⟨rfl, rfl⟩ := goes_pure hrest
        exact ⟨[], by rw [hes]; rfl, .unsigned hs⟩
      · obtain ⟨rfl, rfl⟩ := goes_throw hrest
        exact ⟨[], by rw [hes]; rfl, .unsigned hs⟩
    · have hresult := result_of_outcome x
      rw [hx] at hresult
      rw [hes]
      cases hverdict : verdict d response with
      | underpriced =>
        rw [hverdict] at hresult
        obtain ⟨f, rfl⟩ := hresult
        obtain ⟨subs, hsubs, hpass⟩ := ih hrest
        obtain ⟨fee, rest, hrungs⟩ := rungs_eq_cons w d gas left
        rw [hrungs] at hpass ⊢
        exact ⟨(s, response) :: subs, by rw [hsubs]; rfl, .higher hs hverdict hpass⟩
      | mismatch x =>
        rw [hverdict] at hresult
        obtain ⟨f, rfl⟩ := hresult
        obtain ⟨rfl, rfl⟩ := goes_throw hrest
        exact ⟨[(s, response)], rfl, .mismatch hs hverdict⟩
      | final =>
        rw [hverdict] at hresult
        obtain ⟨info, rfl⟩ | ⟨f, rfl⟩ := hresult
        · obtain ⟨rfl, rfl⟩ := goes_pure hrest
          exact ⟨[(s, response)], rfl, .final hs hverdict⟩
        · obtain ⟨rfl, rfl⟩ := goes_throw hrest
          exact ⟨[(s, response)], rfl, .final hs hverdict⟩

/-- The fees of the last attempts of a ladder. -/
lemma rungs_eq (w : Wallet) (d : TxDraft) (gas : UInt64) {left : Nat}
    (hleft : left ≤ w.config.gasPriceRetries.toNat) :
    rungs w d gas left = (List.range (left + 1)).map fun i =>
      Client.feeForGas w.config d gas (some (priceMultiplier
        (UInt64.ofNat (w.config.gasPriceRetries.toNat - left + i)) w.config.gasPriceRetries
        w.config.gasPriceMaxMultiplier)) := by
  induction left with
  | zero =>
    rw [rungs, Nat.sub_zero, List.range_one, List.map_singleton, Nat.add_zero, UInt64.ofNat_toNat,
      priceMultiplier, if_pos (UInt64.le_refl _)]
  | succ left ih =>
    have hattempt : w.config.gasPriceRetries - UInt64.ofNat (left + 1) =
        UInt64.ofNat (w.config.gasPriceRetries.toNat - (left + 1)) := by
      rw [UInt64.ofNat_sub hleft, UInt64.ofNat_toNat]
    rw [rungs, hattempt, ih (by omega), List.range_succ_eq_map (n := left + 1), List.map_cons,
      List.map_map]
    refine congrArg (_ :: ·) (List.map_congr_left fun i _ => ?_)
    have hplace : w.config.gasPriceRetries.toNat - (left + 1) + (i + 1) =
        w.config.gasPriceRetries.toNat - left + i := by omega
    rw [Function.comp_apply, hplace]

lemma ladder_gas (w : Wallet) (d : TxDraft) (gas : UInt64) :
    w.ladder d (.gas gas) = rungs w d gas w.config.gasPriceRetries.toNat := by
  rw [rungs_eq w d gas (le_refl _), ladder, Nat.sub_self]
  simp only [Nat.zero_add]

lemma goes_submitPlan {plan : FeePlan} {r : Except Setback TxInfo}
    (h : (w.submitPlan d number plan sequence).run.Goes es r) :
    ∃ subs, handed es = exchangesOf subs ∧
      Pass w d number sequence (w.ladder d plan) subs (expectedOf r) := by
  cases plan with
  | fixed fee => exact goes_highest h
  | gas gas =>
    rw [ladder_gas]
    exact goes_climb h

/-! ### Two passes at most -/

/-- The transactions of a broadcast: those of one pass, and of another one at the sequence that ends
the first. -/
inductive Passes (w : Wallet) (d : TxDraft) (number sequence : UInt64) (fees : List Fee) :
    List (Submission × Response) → Prop where
  | once {subs : List (Submission × Response)} (h : Pass w d number sequence fees subs none) :
      Passes w d number sequence fees subs
  | twice {first second : List (Submission × Response)} {x : UInt64} {y : Option UInt64}
      (hfirst : Pass w d number sequence fees first (some x))
      (hsecond : Pass w d number x fees second y) :
      Passes w d number sequence fees (first ++ second)

variable {plan : FeePlan} {fees rest : List Fee} {subs : List (Submission × Response)}

lemma goes_passes {r : Except Failure (TxInfo × UInt64)}
    (h : (withSequence sequence (w.submitPlan d number plan)).run.Goes es r) :
    ∃ subs, handed es = exchangesOf subs ∧
      Passes w d number sequence (w.ladder d plan) subs := by
  obtain ⟨a, -, hpass⟩ | ⟨f, -, hpass⟩ | ⟨x, f, front, back, y, rfl, hfirst, hsecond, -⟩ :=
    goes_withSequence h
  · obtain ⟨subs, hes, hpass⟩ := goes_submitPlan hpass
    exact ⟨subs, hes, .once hpass⟩
  · obtain ⟨subs, hes, hpass⟩ := goes_submitPlan hpass
    exact ⟨subs, hes, .once hpass⟩
  · obtain ⟨first, hfront, hfirst⟩ := goes_submitPlan hfirst
    obtain ⟨second, hback, hsecond⟩ := goes_submitPlan hsecond
    refine ⟨first ++ second, ?_, .twice hfirst hsecond⟩
    rw [handed_append, hfront, hback, exchangesOf, exchangesOf, exchangesOf, List.map_append]

/-- A pass that no other one may follow. -/
lemma schedule_pass {x : Option UInt64} {restarted : Bool}
    (h : Pass w d number sequence rest subs x) (hlast : restarted = true ∨ x = none) :
    schedule w d number fees (subs.map (·.2)) ⟨rest, sequence, restarted⟩ = subs.map (·.1) := by
  induction h with
  | unsigned hs => simp [schedule, Cursor.submission?, hs]
  | final hs hv => simp [schedule, Cursor.submission?, hs, Cursor.next, hv]
  | mismatch hs hv =>
    have hrestarted : restarted = true := hlast.resolve_right (by simp)
    simp [schedule, Cursor.submission?, hs, Cursor.next, hv, hrestarted]
  | highest hs hv => simp [schedule, Cursor.submission?, hs, Cursor.next, hv]
  | higher hs hv hrest ih => simp [schedule, Cursor.submission?, hs, Cursor.next, hv, ih hlast]

/-- A pass that another one follows. -/
lemma schedule_append {x : UInt64} (h : Pass w d number sequence rest subs (some x))
    (responses : List Response) :
    schedule w d number fees (subs.map (·.2) ++ responses) ⟨rest, sequence, false⟩ =
      subs.map (·.1) ++ schedule w d number fees responses ⟨fees, x, true⟩ := by
  generalize hsome : some x = y at h
  induction h with
  | unsigned hs => exact absurd hsome (by simp)
  | final hs hv => exact absurd hsome (by simp)
  | mismatch hs hv =>
    obtain rfl := Option.some.inj hsome
    simp [schedule, Cursor.submission?, hs, Cursor.next, hv]
  | highest hs hv => exact absurd hsome (by simp)
  | higher hs hv hrest ih => simp [schedule, Cursor.submission?, hs, Cursor.next, hv, ih hsome]

lemma schedule_passes (h : Passes w d number sequence fees subs) :
    schedule w d number fees (subs.map (·.2)) ⟨fees, sequence, false⟩ = subs.map (·.1) := by
  cases h with
  | once h => exact schedule_pass h (.inr rfl)
  | twice hfirst hsecond =>
    rw [List.map_append, List.map_append, schedule_append hfirst, schedule_pass hsecond (.inl rfl)]

/-- A broadcast goes through its opening, and then tries the sequence that this has settled. -/
lemma goes_opened {r : Except Failure TxInfo} (h : (w.broadcast d).run.Goes es r) :
    (∃ f, r = .error f ∧ (w.opening d).run.Goes es (.error f)) ∨
    ∃ front back number plan first x, es = front ++ back ∧
      (w.opening d).run.Goes front (.ok (number, plan, first)) ∧
      (withSequence first (w.submitPlan d number plan)).run.Goes back x ∧ r = x.map Prod.fst := by
  rw [broadcast_eq] at h
  obtain ⟨f, rfl, hopening⟩ | ⟨front, ⟨number, plan, first⟩, back, rfl, hopening, hrest⟩ :=
    goes_bindExcept h
  · exact .inl ⟨f, rfl, hopening⟩
  · obtain ⟨f, rfl, htried⟩ | ⟨tried, a, last, rfl, htried, hdone⟩ := goes_bindExcept hrest
    · exact .inr ⟨front, back, number, plan, first, _, rfl, hopening, htried, rfl⟩
    · obtain ⟨rfl, rfl⟩ := goes_pure hdone
      exact .inr ⟨front, tried, number, plan, first, _, by rw [List.append_nil], hopening, htried,
        rfl⟩

lemma plan_fee (sequence : UInt64) {fee : Fee} (hfee : d.fee = some fee) :
    w.plan d sequence = pure (.fixed fee, sequence) := by
  rw [Wallet.plan, hfee]

lemma broadcast_goes_of_passes {x : Except Failure (TxInfo × UInt64)}
    (hnumber : d.accountNumber = some number) (hsequence : d.sequence = some sequence)
    (hplan : w.plan d sequence = pure (plan, sequence))
    (h : (withSequence sequence (w.submitPlan d number plan)).run.Goes es x) :
    (w.broadcast d).run.Goes es (x.map Prod.fst) := by
  unfold Wallet.broadcast signingNumbers
  rw [hnumber, hsequence]
  simp only [pure_bind, hplan]
  cases x with
  | ok a => exact h.bind_of_nil (f := ExceptT.bindCont fun a => pure a.1) (.done _)
  | error f => exact h.bind_of_nil (f := ExceptT.bindCont fun a => pure a.1) (.done _)

lemma goes_broadcast {r : Except Failure TxInfo} (h : (w.broadcast d).run.Goes es r) :
    (∃ f, r = .error f ∧ handed es = [] ∧ (w.opening d).run.Goes es (.error f)) ∨
    ∃ front back number plan first subs, es = front ++ back ∧
      (w.opening d).run.Goes front (.ok (number, plan, first)) ∧ handed es = exchangesOf subs ∧
      Passes w d number first (w.ladder d plan) subs := by
  obtain ⟨f, rfl, hopening⟩ | ⟨front, back, number, plan, first, x, rfl, hopening, htried, -⟩ :=
    goes_opened h
  · exact .inl ⟨f, rfl, (goes_opening hopening).1, hopening⟩
  · obtain ⟨subs, hback, hpasses⟩ := goes_passes htried
    refine .inr ⟨front, back, number, plan, first, subs, rfl, hopening, ?_, hpasses⟩
    rw [handed_append, (goes_opening hopening).1, hback, List.nil_append]

/-- The last fee of a ladder is exactly at the greatest multiple of the prices. -/
lemma ladder_getLast? (w : Wallet) (d : TxDraft) (gas : UInt64) :
    (w.ladder d (.gas gas)).getLast? =
      some (Client.feeForGas w.config d gas (some w.config.gasPriceMaxMultiplier)) := by
  rw [ladder, List.range_succ, List.map_append, List.map_singleton, List.getLast?_append,
    List.getLast?_singleton, Option.some_or, UInt64.ofNat_toNat, priceMultiplier,
    if_pos (UInt64.le_refl _)]

/-- Against whatever answers the requests of a wallet, the transactions that a broadcast hands over
are those of the schedule, for the account number, the plan of fees and the first sequence that its
opening has settled. An opening that fails hands over nothing. -/
theorem broadcast_schedule {σ : Type} (w : Wallet) (d : TxDraft)
    (respond : σ → Request → Response × σ) (pause : σ → Nat → σ) (s : σ) :
    let es := (w.broadcast d).run.log respond pause s
    (∃ f, ((w.broadcast d).run.run respond pause s).1 = .error f ∧ handed es = [] ∧
      (w.opening d).run.Goes es (.error f)) ∨
    ∃ asked planned rest number sequence plan first, es = asked ++ planned ++ rest ∧
      Numbered w d asked number sequence ∧ Planned w d sequence planned plan first ∧
      handed (asked ++ planned) = [] ∧
      (handed es).map (·.1) = (schedule w d number (w.ladder d plan) ((handed es).map (·.2))
        ⟨w.ladder d plan, first, false⟩).map (·.request) ∧
      ∀ gas, plan = .gas gas → (w.ladder d plan).getLast? =
        some (Client.feeForGas w.config d gas (some w.config.gasPriceMaxMultiplier)) := by
  intro es
  have hgoes := goes_run respond pause (w.broadcast d).run s
  obtain ⟨f, hr, hnone, hopening⟩ | ⟨front, rest, number, plan, first, subs, hes, hopening, hhanded,
    hpasses⟩ := goes_broadcast hgoes
  · exact .inl ⟨f, hr, hnone, hopening⟩
  · obtain ⟨hnone, hsettled⟩ := goes_opening hopening
    obtain ⟨asked, planned, sequence, rfl, hnumbered, hplanned⟩ := hsettled _ _ _ rfl
    refine .inr ⟨asked, planned, rest, number, sequence, plan, first, hes, hnumbered, hplanned,
      hnone, ?_, ?_⟩
    · have hresponses : (exchangesOf subs).map (·.2) = subs.map (·.2) := List.map_map
      have hrequests : (exchangesOf subs).map (·.1) = (subs.map (·.1)).map (·.request) := by
        rw [exchangesOf, List.map_map, List.map_map]
        rfl
      rw [hhanded, hresponses, hrequests, schedule_passes hpasses]
    · rintro gas rfl
      exact ladder_getLast? w d gas

variable {fee : Fee} {response : Response} {s : Submission} {gas : UInt64} {left : Nat}

/-- A transaction that is not accepted by the node, or of which nothing could be read. -/
lemma submit_goes (hs : w.submission? d number sequence fee = some s)
    (hresponse : ∀ b, answerOf response = .ok b → ¬(d.skipCodeCheck ∨ b.code = 0)) :
    ∃ refusal, outcome (.error refusal) = verdict d response ∧
      (w.submit d number sequence fee).run.Goes [(s.request, response)] (.error refusal) := by
  obtain ⟨t, text, ht, htext, rfl⟩ := signed_of_submission hs
  rw [submit_run ht htext]
  cases hanswer : answerOf response with
  | error e =>
    refine ⟨Refusal.ofFailure (e.toFailure.within "Unable to broadcast transaction"), ?_, .ask ?_⟩
    · rw [verdict, hanswer]
      rfl
    · simp only [hanswer]
      exact .done _
  | ok b =>
    have hrefused : ¬d.skipCodeCheck ∧ ¬b.isSuccess := by
      simpa [Broadcast.isSuccess] using hresponse b hanswer
    have hcode : b.code ≠ 0 := fun hb => hresponse b hanswer (.inr hb)
    refine ⟨refusal b, outcome_refusal hcode (by simpa using hrefused.1) hanswer, .ask ?_⟩
    simp only [hanswer, if_pos hrefused]
    exact .done _

lemma climb_goes_higher {rest : List Fee} {r : Except Setback TxInfo}
    (hfees : rungs w d gas (left + 1) = fee :: rest)
    (hs : w.submission? d number sequence fee = some s) (hv : verdict d response = .underpriced)
    (h : (w.climb d number sequence gas left).run.Goes es r) :
    (w.climb d number sequence gas (left + 1)).run.Goes ((s.request, response) :: es) r := by
  obtain ⟨rfl, rfl⟩ := List.cons.inj hfees
  have hrefused : ∀ b, answerOf response = .ok b → ¬(d.skipCodeCheck ∨ b.code = 0) := by
    intro b hb hfinal
    rw [verdict, hb] at hv
    simp only [if_pos hfinal] at hv
    exact absurd hv (by simp)
  obtain ⟨refusal, hrefusal, hsubmit⟩ := submit_goes hs hrefused
  have hresult := result_of_outcome (.error refusal)
  rw [hrefusal, hv] at hresult
  obtain ⟨f, hf⟩ := hresult
  obtain rfl := Except.error.inj hf
  exact hsubmit.attempt h

lemma climb_goes_unread {rest : List Fee} {e : RequestError}
    (hfees : rungs w d gas (left + 1) = fee :: rest)
    (hs : w.submission? d number sequence fee = some s) (he : answerOf response = .error e) :
    ∃ f, (w.climb d number sequence gas (left + 1)).run.Goes [(s.request, response)]
      (.error (Setback.ofFailure f)) := by
  obtain ⟨rfl, rfl⟩ := List.cons.inj hfees
  obtain ⟨refusal, hrefusal, hsubmit⟩ := submit_goes hs fun b hb => absurd (he.symm.trans hb) (by simp)
  have hresult := result_of_outcome (.error refusal)
  rw [hrefusal, verdict, he] at hresult
  obtain ⟨info, hinfo⟩ | ⟨f, hf⟩ := hresult
  · exact absurd hinfo (by simp)
  · obtain rfl := Except.error.inj hf
    have hdone : (throw (Setback.ofFailure f) : ExceptT Setback Program TxInfo).run.Goes []
      (.error (Setback.ofFailure f)) := .done _
    exact ⟨f, hsubmit.attempt hdone⟩

def plainWallet : Wallet where
  config := { chainId := "chain", gasPrices := ⟨[]⟩, hrp := .cosmos, url := "http://lcd0" }
  key := ⟨⟨1, by decide, by decide⟩⟩

def payment : Message :=
  .send "alice" "bob" ⟨[⟨"atom", ⟨12, by decide⟩⟩], by simp, by simp⟩

def gasDraft : TxDraft :=
  { messages := [payment]
    gasLimit := some 200000
    accountNumber := some 1
    sequence := some 5 }

def underpricedBody : String :=
  "\x7b\"tx_response\":\x7b\"txhash\":\"AB\",\"code\":13,\"raw_log\":\"insufficient fees\"\x7d\x7d"

lemma gasDraft_goes : ∃ low high more first second f,
    plainWallet.ladder gasDraft (.gas 200000) = low :: high :: more ∧
    plainWallet.submission? gasDraft 1 5 low = some first ∧
    plainWallet.submission? gasDraft 1 5 high = some second ∧
    (plainWallet.broadcast gasDraft).run.Goes
      [(first.request, .ok ⟨"http://lcd0", underpricedBody⟩),
        (second.request, .error (.timeout "http://lcd0" 5))] (.error f) := by
  have hfees : plainWallet.ladder gasDraft (.gas 200000) = rungs plainWallet gasDraft 200000 3 :=
    ladder_gas ..
  obtain ⟨low, rest, hlow⟩ := rungs_eq_cons plainWallet gasDraft 200000 3
  obtain ⟨high, more, hhigh⟩ := rungs_eq_cons plainWallet gasDraft 200000 2
  obtain rfl : rest = high :: more := (List.cons.inj hlow).2.symm.trans hhigh
  obtain ⟨first, hfirst⟩ := Option.isSome_iff_exists.1
    (show (plainWallet.submission? gasDraft 1 5 low).isSome from submission?_isSome ..)
  obtain ⟨second, hsecond⟩ := Option.isSome_iff_exists.1
    (show (plainWallet.submission? gasDraft 1 5 high).isSome from submission?_isSome ..)
  obtain ⟨f, hlast⟩ : ∃ f, (plainWallet.climb gasDraft 1 5 200000 2).run.Goes
      [(second.request, .error (.timeout "http://lcd0" 5))] (.error (Setback.ofFailure f)) :=
    climb_goes_unread hhigh hsecond rfl
  have hclimb : (plainWallet.submitPlan gasDraft 1 (.gas 200000) 5).run.Goes
      [(first.request, .ok ⟨"http://lcd0", underpricedBody⟩),
        (second.request, .error (.timeout "http://lcd0" 5))] (.error (Setback.ofFailure f)) :=
    climb_goes_higher hlow hfirst (by decide +kernel) hlast
  exact ⟨low, high, more, first, second, f, hfees.trans hlow, hfirst, hsecond,
    broadcast_goes_of_passes (d := gasDraft) rfl rfl rfl
      (withSequence_goes_final (x := .error f) _ hclimb)⟩

/-- The second fee of four is tried at the same sequence, and the node is not heard of again. -/
theorem gasDraft_climbs :
    let script : List Response :=
      [.ok ⟨"http://lcd0", underpricedBody⟩, .error (.timeout "http://lcd0" 5)]
    let es := (plainWallet.broadcast gasDraft).run.log
      (Course.replay (.error (.timeout "http://lcd0" 5))) (fun script _ => script) script
    let fees := plainWallet.ladder gasDraft (.gas 200000)
    fees.length = 4 ∧ ∃ first second,
      fees[0]?.bind (plainWallet.submission? gasDraft 1 5) = some first ∧
      fees[1]?.bind (plainWallet.submission? gasDraft 1 5) = some second ∧
      es = [(first.request, script[0]), (second.request, script[1])] ∧
      (schedule plainWallet gasDraft 1 fees script ⟨fees, 5, false⟩).map (·.request) =
        [first.request, second.request] ∧
      fees.getLast? = some (Client.feeForGas plainWallet.config gasDraft 200000 (some 1.5)) := by
  intro script es fees
  obtain ⟨low, high, more, first, second, f, hfees, hfirst, hsecond, hgoes⟩ := gasDraft_goes
  have hes : es = [(first.request, script[0]), (second.request, script[1])] :=
    Course.log_replay hgoes _
  have hhanded : handed es = es := by
    obtain ⟨-, _, -, -, rfl⟩ := signed_of_submission hfirst
    obtain ⟨-, _, -, -, rfl⟩ := signed_of_submission hsecond
    rw [hes]
    rfl
  obtain ⟨f', -, hnone, -⟩ | ⟨asked, planned, after, number, sequence, plan, start, -, hnumbered,
    hplanned, -, hschedule, hhighest⟩ := broadcast_schedule plainWallet gasDraft
      (Course.replay (.error (.timeout "http://lcd0" 5))) (fun script _ => script) script
  · exact absurd (hes.symm.trans (hhanded.symm.trans hnone)) (by simp)
  · obtain ⟨rfl, rfl⟩ : number = 1 ∧ sequence = 5 := by
      cases hnumbered with
      | given hnumber hsequence =>
        exact ⟨(Option.some.inj hnumber).symm, (Option.some.inj hsequence).symm⟩
      | asked hopen => exact absurd hopen (by simp [gasDraft])
    obtain ⟨rfl, rfl⟩ : plan = .gas 200000 ∧ start = 5 := by
      cases hplanned with
      | gas hfee hgas => exact ⟨congrArg _ (Option.some.inj hgas).symm, rfl⟩
      | fixed hfee => exact absurd hfee (by simp [gasDraft])
      | simulated _ hgas => exact absurd hgas (by simp [gasDraft])
      | again _ hgas => exact absurd hgas (by simp [gasDraft])
    change (handed es).map (·.1) = (schedule plainWallet gasDraft 1 fees ((handed es).map (·.2))
      ⟨fees, 5, false⟩).map (·.request) at hschedule
    rw [hhanded, hes] at hschedule
    refine ⟨by simp [fees, ladder, plainWallet, ClientConfig.gasPriceRetries], first, second, ?_, ?_, hes,
      hschedule.symm, hhighest _ rfl⟩
    · rw [show fees = _ from hfees]
      exact hfirst
    · rw [show fees = _ from hfees]
      exact hsecond

end CosmosClient.Proofs
