import Mathlib
import CosmosClient.Proofs.LostReplies

/-!
# The end of a broadcast

Once a node has accepted a transaction, the broadcast hands over no other one. It looks for the
accepted transaction and ends with what it finds: every failure from then on is about no sequence and
no fee, so that neither of the two ways to try again is open.
-/

namespace CosmosClient.Wallet

/-- An exchange hands over a transaction that the node accepts, as far as the draft wants to know. -/
def Accepts (d : TxDraft) (e : Request × Response) (b : Broadcast) : Prop :=
  hands e.1 ∧ answerOf e.2 = .ok b ∧ (d.skipCodeCheck ∨ b.code = 0)

/-- No exchange hands over a transaction that is accepted. -/
def Refused (d : TxDraft) (es : List (Request × Response)) : Prop :=
  ∀ e ∈ es, ∀ b, ¬Accepts d e b

/-- A transaction is accepted after others have been refused, and what follows is the search for it,
which has the result. -/
def Settled (w : Wallet) (d : TxDraft) (es : List (Request × Response))
    (r : Except Failure TxInfo) : Prop :=
  ∃ front e back b x, es = front ++ e :: back ∧ Refused d front ∧ Accepts d e b ∧
    Client.Polled b.txhash w.config.transactionAttempts.toNat back x ∧ r = x.bind (judge d)

end CosmosClient.Wallet

namespace CosmosClient.Proofs
open Course (Goes)
open Client (Polled looking)
open Wallet

variable {w : Wallet} {d : TxDraft} {number sequence : UInt64}
  {es fs : List (Request × Response)}

lemma refused_of_handed (h : handed es = []) : Refused d es := by
  intro e he b haccepts
  have hmem : e ∈ handed es := List.mem_filter.2 ⟨he, haccepts.1⟩
  rw [h] at hmem
  exact absurd hmem (by simp)

lemma refused_append (hes : Refused d es) (hfs : Refused d fs) : Refused d (es ++ fs) :=
  List.forall_mem_append.2 ⟨hes, hfs⟩

lemma settled_append {x : Except Failure TxInfo} (hes : Refused d es) (hfs : Settled w d fs x) :
    Settled w d (es ++ fs) x := by
  obtain ⟨front, e, back, b, y, rfl, hfront, haccepts, hback, hx⟩ := hfs
  exact ⟨es ++ front, e, back, b, y, (List.append_assoc ..).symm, refused_append hes hfront,
    haccepts, hback, hx⟩

lemma judge_eq_ok {info report : TxInfo} :
    judge d report = .ok info ↔ report = info ∧ (d.skipCodeCheck ∨ info.code = none) := by
  have hsuccess : report.isSuccess ↔ report.code = none := Option.isNone_iff_eq_none
  unfold judge
  by_cases h : d.skipCodeCheck ∨ report.isSuccess
  · rw [if_pos h, Except.ok.injEq, iff_self_and]
    rintro rfl
    rwa [hsuccess] at h
  · rw [if_neg h, iff_false_left (by simp)]
    rintro ⟨rfl, hinfo⟩
    exact h (hinfo.imp_right hsuccess.2)

lemma judge_success {info : TxInfo} (h : d.skipCodeCheck ∨ info.code = none) :
    judge d info = .ok info :=
  judge_eq_ok.2 ⟨rfl, h⟩

lemma judge_failure {info : TxInfo} {code : UInt32} (hcheck : ¬d.skipCodeCheck)
    (hcode : info.code = some code) : ∃ f, judge d info = .error f := by
  unfold judge TxInfo.isSuccess
  rw [if_neg (by simp [hcheck, hcode])]
  exact ⟨_, rfl⟩

/-- A failure is no refusal once the transaction is accepted. -/
lemma settled_of_submit {fee : Fee} {r : Except Refusal TxInfo}
    (h : (w.submit d number sequence fee).run.Goes es r) :
    (Refused d es ∧ ∃ f, r = .error f) ∨
    ∃ x, Settled w d es x ∧ r = x.mapError Refusal.ofFailure := by
  cases hs : w.submission? d number sequence fee with
  | none =>
    obtain ⟨f, hrun⟩ := unsigned_run hs
    rw [hrun] at h
    obtain ⟨rfl, rfl⟩ := goes_done h
    exact .inl ⟨by simp [Refused], _, rfl⟩
  | some s =>
    obtain ⟨t, text, ht, htext, rfl⟩ := signed_of_submission hs
    rw [submit_run ht htext] at h
    cases h with
    | @ask _ _ response es _ h =>
    cases hanswer : answerOf response with
    | error e =>
      simp only [hanswer] at h
      obtain ⟨rfl, rfl⟩ := goes_done h
      exact .inl ⟨by simp [Refused, Accepts, hanswer], _, rfl⟩
    | ok b =>
      simp only [hanswer] at h
      by_cases hrefused : ¬d.skipCodeCheck ∧ ¬b.isSuccess
      · rw [if_pos hrefused] at h
        obtain ⟨rfl, rfl⟩ := goes_done h
        have hcode : ¬(d.skipCodeCheck ∨ b.code = 0) := by
          simpa [Broadcast.isSuccess] using hrefused
        refine .inl ⟨?_, _, rfl⟩
        intro e he b' haccepts
        obtain rfl := List.mem_singleton.1 he
        obtain rfl := Except.ok.inj (hanswer.symm.trans haccepts.2.1)
        exact hcode haccepts.2.2
      · rw [if_neg hrefused] at h
        obtain ⟨x, hpolled, rfl⟩ := polled_of_settle h
        have haccepted : d.skipCodeCheck ∨ b.code = 0 := by
          simp only [Broadcast.isSuccess, beq_iff_eq] at hrefused
          tauto
        have hnone : Refused d [] := by simp [Refused]
        exact .inr ⟨x.bind (judge d), ⟨[], _, es, b, x, rfl, hnone, ⟨rfl, hanswer, haccepted⟩,
          hpolled, rfl⟩, rfl⟩

lemma settled_of_highest {fee : Fee} {r : Except Setback TxInfo}
    (h : ((w.submit d number sequence fee).adapt Refusal.toSetback).run.Goes es r) :
    (Refused d es ∧ ∃ s, r = .error s) ∨
    ∃ x, Settled w d es x ∧ r = x.mapError Setback.ofFailure := by
  obtain ⟨y, rfl, hsubmit⟩ := goes_adapt h
  obtain ⟨hes, f, rfl⟩ | ⟨x, hx, rfl⟩ := settled_of_submit hsubmit
  · exact .inl ⟨hes, _, rfl⟩
  · exact .inr ⟨x, hx, by cases x <;> rfl⟩

lemma settled_of_climb {gas : UInt64} {left : Nat} {r : Except Setback TxInfo}
    (h : (w.climb d number sequence gas left).run.Goes es r) :
    (Refused d es ∧ ∃ s, r = .error s) ∨
    ∃ x, Settled w d es x ∧ r = x.mapError Setback.ofFailure := by
  induction left generalizing es r with
  | zero => exact settled_of_highest h
  | succ left ih =>
    obtain ⟨front, y, back, rfl, hsubmit, hrest⟩ := goes_attempt h
    obtain ⟨hfront, f, rfl⟩ | ⟨x, hx, rfl⟩ := settled_of_submit hsubmit
    · cases f with
      | insufficientFee f =>
        obtain ⟨hback, hr⟩ | ⟨x, hx, hr⟩ := ih hrest
        · exact .inl ⟨refused_append hfront hback, hr⟩
        · exact .inr ⟨x, settled_append hfront hx, hr⟩
      | setback s =>
        obtain ⟨rfl, rfl⟩ := goes_throw hrest
        exact .inl ⟨by rwa [List.append_nil], s, rfl⟩
    · refine .inr ⟨x, ?_⟩
      cases x with
      | ok info =>
        obtain ⟨rfl, rfl⟩ := goes_pure hrest
        exact ⟨by rwa [List.append_nil], rfl⟩
      | error f =>
        obtain ⟨rfl, rfl⟩ := goes_throw hrest
        exact ⟨by rwa [List.append_nil], rfl⟩

lemma settled_of_submitPlan {plan : FeePlan} {r : Except Setback TxInfo}
    (h : (w.submitPlan d number plan sequence).run.Goes es r) :
    (Refused d es ∧ ∃ s, r = .error s) ∨
    ∃ x, Settled w d es x ∧ r = x.mapError Setback.ofFailure := by
  cases plan with
  | fixed fee => exact settled_of_highest h
  | gas gas => exact settled_of_climb h

lemma settled_of_passes {plan : FeePlan} {r : Except Failure (TxInfo × UInt64)}
    (h : (withSequence sequence (w.submitPlan d number plan)).run.Goes es r) :
    (Refused d es ∧ ∃ f, r = .error f) ∨ Settled w d es (r.map Prod.fst) := by
  obtain ⟨info, rfl, hpass⟩ | ⟨f, rfl, hpass⟩ | ⟨expected, f, front, back, y, rfl, hfirst, hsecond,
    rfl⟩ := goes_withSequence h
  · obtain ⟨-, s, hs⟩ | ⟨x, hx, hinfo⟩ := settled_of_submitPlan hpass
    · exact absurd hs (by simp)
    · obtain rfl := mapError_eq_ok.1 hinfo.symm
      exact .inr hx
  · obtain ⟨hes, -⟩ | ⟨x, hx, hf⟩ := settled_of_submitPlan hpass
    · exact .inl ⟨hes, f, rfl⟩
    · obtain ⟨f, rfl, hsame⟩ := mapError_eq_error.1 hf.symm
      obtain rfl := congrArg Setback.failure hsame
      exact .inr hx
  · -- a setback that names a sequence is not one of an accepted transaction
    have hfront : Refused d front := by
      obtain ⟨hfront, -⟩ | ⟨x, -, hf⟩ := settled_of_submitPlan hfirst
      · exact hfront
      · obtain ⟨g, -, hsame⟩ := mapError_eq_error.1 hf.symm
        exact absurd (congrArg Setback.expected hsame) (by simp [Setback.ofFailure])
    obtain ⟨hback, s, rfl⟩ | ⟨x, hx, rfl⟩ := settled_of_submitPlan hsecond
    · exact .inl ⟨refused_append hfront hback, s.failure, rfl⟩
    · refine .inr ?_
      have hresult : (((x.mapError Setback.ofFailure).mapError Setback.failure).map
          fun a => (a, expected)).map Prod.fst = x := by
        cases x <;> rfl
      rw [hresult]
      exact settled_append hfront hx

lemma settled_of_broadcast {r : Except Failure TxInfo} (h : (w.broadcast d).run.Goes es r) :
    (Refused d es ∧ ∃ f, r = .error f) ∨ Settled w d es r := by
  obtain ⟨f, rfl, hopening⟩ | ⟨front, back, number, plan, first, x, rfl, hopening, htried, rfl⟩ :=
    goes_opened h
  · exact .inl ⟨refused_of_handed (goes_opening hopening).1, f, rfl⟩
  · have hfront : Refused d front := refused_of_handed (goes_opening hopening).1
    obtain ⟨hback, f, rfl⟩ | hsettled := settled_of_passes htried
    · exact .inl ⟨refused_append hfront hback, f, rfl⟩
    · exact .inr (settled_append hfront hsettled)

/-- There is one place only where a transaction is accepted. -/
lemma accepted_unique {front back front' back' : List (Request × Response)}
    {e e' : Request × Response} {b : Broadcast}
    (h : front ++ e :: back = front' ++ e' :: back') (hfront : Refused d front)
    (hback : Refused d back) (he' : Accepts d e' b) : e = e' ∧ back = back' := by
  obtain ⟨mid, hmid, hrest⟩ | ⟨mid, hmid, hrest⟩ := List.append_eq_append_iff.1 h
  · cases mid with
    | nil => exact List.cons.inj hrest
    | cons a mid =>
      obtain ⟨-, hback'⟩ := List.cons.inj hrest
      exact absurd he' (hback e' (by simp [hback']) b)
  · cases mid with
    | nil => exact (List.cons.inj hrest).imp Eq.symm Eq.symm
    | cons a mid =>
      obtain ⟨rfl, -⟩ := List.cons.inj hrest
      exact absurd he' (hfront _ (by simp [hmid]) b)

/-- Against whatever answers the requests of a wallet: once a node has accepted a transaction of a
broadcast, all that follows is the search for it, which hands nothing over; its failure is that of
the broadcast, and a report of it is the result, unless codes are checked and it tells of one. A
broadcast succeeds only with such a report. -/
theorem broadcast_final {σ : Type} (w : Wallet) (d : TxDraft)
    (respond : σ → Request → Response × σ) (pause : σ → Nat → σ) (s : σ) :
    let es := (w.broadcast d).run.log respond pause s
    let r := ((w.broadcast d).run.run respond pause s).1
    (∀ front e back b, es = front ++ e :: back → Accepts d e b →
      handed back = [] ∧ (∀ look ∈ back, look.1 = looking b.txhash) ∧
      ∃ x, Polled b.txhash w.config.transactionAttempts.toNat back x ∧
        (∀ f, x = .error f → r = .error f) ∧
        (∀ info, x = .ok info → d.skipCodeCheck ∨ info.code = none → r = .ok info) ∧
        ∀ info code, x = .ok info → ¬d.skipCodeCheck → info.code = some code → ∃ f, r = .error f) ∧
    ∀ info, r = .ok info → ∃ front e looks last b,
      es = front ++ e :: (looks ++ [(looking b.txhash, last)]) ∧ Accepts d e b ∧
      Client.reportOf last = .ok info ∧ (d.skipCodeCheck ∨ info.code = none) := by
  intro es r
  obtain ⟨hrefused, f, hr⟩ | hsettled := settled_of_broadcast (goes_run respond pause (w.broadcast d).run s)
  · refine ⟨fun front e back b hes haccepts => ?_, fun info hinfo => ?_⟩
    · have hmem : e ∈ es := by simp [hes]
      exact absurd haccepts (hrefused e hmem b)
    · exact absurd (hr.symm.trans hinfo) (by simp)
  · obtain ⟨front, e, back, b, x, hes, hfront, haccepts, hback, hr⟩ := hsettled
    refine ⟨fun front' e' back' b' hes' haccepts' => ?_, fun info hinfo => ?_⟩
    · obtain ⟨rfl, rfl⟩ := accepted_unique (hes.symm.trans hes') hfront
        (refused_of_handed (handed_polled hback)) haccepts'
      obtain rfl := Except.ok.inj (haccepts.2.1.symm.trans haccepts'.2.1)
      refine ⟨handed_polled hback, polled_looking hback, x, hback, ?_, ?_, ?_⟩
      · rintro f rfl
        exact hr
      · rintro info rfl hsuccess
        exact hr.trans (judge_success hsuccess)
      · rintro info code rfl hcheck hcode
        obtain ⟨f, hf⟩ := judge_failure hcheck hcode
        exact ⟨f, hr.trans hf⟩
    · obtain ⟨report, rfl, hjudge⟩ := bind_eq_ok.1 (hr.symm.trans hinfo)
      obtain ⟨rfl, hsuccess⟩ := judge_eq_ok.1 hjudge
      obtain ⟨looks, last, rfl, hlast⟩ := (polled_ok_iff hback).1 rfl
      exact ⟨front, e, looks, last, b, hes, haccepts, hlast, hsuccess⟩

lemma settle_goes {txhash : String} {info : TxInfo}
    (h : (Client.waitForTx w.config txhash).run.Goes es (.ok info)) :
    (w.settle d txhash).run.Goes es ((judge d info).mapError Refusal.ofFailure) := by
  rw [settle_eq]
  exact (h.adapt (f := Refusal.ofFailure)).bind_of_nil (.done _)

lemma submit_goes_accepted {fee : Fee} {submission : Submission} {response : Response}
    {b : Broadcast} {r : Except Refusal TxInfo}
    (hs : w.submission? d number sequence fee = some submission)
    (haccepts : Accepts d (submission.request, response) b)
    (h : (w.settle d b.txhash).run.Goes es r) :
    (w.submit d number sequence fee).run.Goes ((submission.request, response) :: es) r := by
  obtain ⟨t, text, ht, htext, rfl⟩ := signed_of_submission hs
  obtain ⟨-, hanswer, haccepted⟩ := haccepts
  have hchecked : ¬(¬d.skipCodeCheck ∧ ¬b.isSuccess) := by
    simp only [Broadcast.isSuccess, beq_iff_eq]
    tauto
  rw [submit_run ht htext]
  refine .ask ?_
  simp only [hanswer, if_neg hchecked]
  exact h

/-- A draft that leaves nothing open ends with its first transaction when that is accepted. -/
lemma broadcast_goes_accepted {fee : Fee} {x : Except Failure TxInfo} (hfee : d.fee = some fee)
    (hnumber : d.accountNumber = some number) (hsequence : d.sequence = some sequence)
    (h : (w.submit d number sequence fee).run.Goes es (x.mapError Refusal.ofFailure)) :
    (w.broadcast d).run.Goes es x := by
  have hplan : (w.submitPlan d number (.fixed fee) sequence).run.Goes es
      (x.mapError Setback.ofFailure) := by
    have hadapted := h.adapt (f := Refusal.toSetback)
    cases x with
    | ok info => exact hadapted
    | error f => exact hadapted
  have hbroadcast := broadcast_goes_of_passes hnumber hsequence (plan_fee sequence hfee)
    (withSequence_goes_final _ hplan)
  cases x <;> exact hbroadcast

def acceptedBody : String :=
  "\x7b\"tx_response\":\x7b\"txhash\":\"AB\"\x7d\x7d"

/-- A report on a transaction that failed in its block, with its records as arrays. -/
def failedBody : String :=
  "\x7b\"tx_response\":[7,\"AB\",\"account sequence mismatch, expected 6, got 5\",null,1,1," ++
    "[[[],\"\",\"0\"],[[],[[],\"1\"]],[]],\"\",[],32]\x7d"

/-- The transaction is accepted, not found once, and then found to have failed; the message of its
failure names a sequence. -/
theorem settledDraft_final :
    let missing : Response := .error (.endpoint "http://lcd0" 404 5 "tx not found")
    let script : List Response :=
      [.ok ⟨"http://lcd0", acceptedBody⟩, missing, .ok ⟨"http://lcd0", failedBody⟩]
    let answer := Course.replay missing
    let es := (plainWallet.broadcast settledDraft).run.log answer (fun script _ => script) script
    ∃ front e back b, es = front ++ e :: back ∧ Accepts settledDraft e b ∧
      handed back = [] ∧ back.map (·.1) = [looking "AB", looking "AB"] ∧
      ∃ f, ((plainWallet.broadcast settledDraft).run.run answer (fun script _ => script) script).1 =
        .error f := by
  intro missing script answer es
  obtain ⟨s, hs⟩ := Option.isSome_iff_exists.1
    (show (plainWallet.submission? settledDraft 1 5 (Fee.ofGas 200000 Coins.empty)).isSome from
      submission?_isSome ..)
  have hb : ∃ b, answerOf script[0] = .ok b ∧ b.txhash = "AB" ∧ b.code = 0 := by
    have hread : (answerOf script[0]).toOption.map (fun b => (b.txhash, b.code)) =
        some ("AB", 0) := by decide +kernel
    obtain ⟨b, hb, heq⟩ := Option.map_eq_some_iff.1 hread
    obtain ⟨hhash, hcode⟩ := Prod.mk.inj heq
    exact ⟨b, toOption_eq_some.1 hb, hhash, hcode⟩
  have hinfo : ∃ info, Client.reportOf script[2] = .ok info ∧ info.code = some 32 := by
    have hread : (Client.reportOf script[2]).toOption.map (·.code) = some (some 32) := by
      decide +kernel
    obtain ⟨info, hinfo, hcode⟩ := Option.map_eq_some_iff.1 hread
    exact ⟨info, toOption_eq_some.1 hinfo, hcode⟩
  obtain ⟨b, hanswer, hhash, hcode⟩ := hb
  obtain ⟨info, hreport, hfailed⟩ := hinfo
  have hmissing : Client.IsMissing missing := ⟨_, _, _, _, rfl, .inl rfl⟩
  have haccepts : Accepts settledDraft (s.request, script[0]) b := by
    obtain ⟨-, text, -, -, rfl⟩ := signed_of_submission hs
    exact ⟨rfl, hanswer, .inr hcode⟩
  have hwait : (Client.waitForTx plainWallet.config b.txhash).run.Goes
      [(looking b.txhash, missing), (looking b.txhash, script[2])] (.ok info) :=
    waitFor_goes_missing hmissing (waitFor_goes_found hreport)
  have hgoes := broadcast_goes_accepted (d := settledDraft) rfl rfl rfl
    (submit_goes_accepted hs haccepts (settle_goes hwait))
  have hlog := Course.log_replay hgoes missing
  obtain ⟨hhanded, -, x, hpolled, -, -, hfailure⟩ :=
    (broadcast_final plainWallet settledDraft answer (fun script _ => script) script).1 [] _ _ b hlog
      haccepts
  have hx : x = .ok info := (polled_ok_iff hpolled).2 ⟨[_], _, rfl, hreport⟩
  exact ⟨[], _, _, b, hlog, haccepts, hhanded, by simp [hhash],
    hfailure info 32 hx (by decide) hfailed⟩

end CosmosClient.Proofs
