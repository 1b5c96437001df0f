import Mathlib
import CosmosClient.Client.Tx
import CosmosClient.Proofs.Exchanges
import CosmosClient.Proofs.TextSearch

/-!
# Looking for a transaction

A transaction is looked for by one request after the other, as long as the answers say that it is not
found and attempts are left. The first other answer is the result.
-/

namespace CosmosClient.Client

/-- The request that looks for a transaction. -/
def looking (txhash : String) : Request := { path := txsPath ++ "/" ++ txhash }

/-- What an answer reports on a transaction. -/
def reportOf : Response → Except RequestError TxInfo :=
  contentOf (only "tx_response" TxInfo.ofJson)

/-- The answer says that the transaction is not found. -/
def IsMissing (response : Response) : Prop :=
  ∃ url status code message, reportOf response = .error (.endpoint url status code message) ∧
    (status = 404 ∨ code = 5 ∨ "not found".toList <:+: message.toList)

/-- The looks for a transaction, up to a number of them, with their answers and the result. -/
inductive Polled (txhash : String) (attempts : Nat) :
    List (Request × Response) → Except Failure TxInfo → Prop where
  | timedOut {missing : List Response} (hmissing : ∀ response ∈ missing, IsMissing response)
      (hlength : missing.length = attempts) :
      Polled txhash attempts (missing.map fun response => (looking txhash, response))
        (.error (Failure.text s!"Timed out waiting for {txhash} to be ready"))
  | answered {missing : List Response} {last : Response}
      (hmissing : ∀ response ∈ missing, IsMissing response)
      (hlength : missing.length < attempts) (hlast : ¬IsMissing last) :
      Polled txhash attempts ((missing ++ [last]).map fun response => (looking txhash, response))
        ((reportOf last).mapError fun e =>
          e.toFailure.within s!"Unable to get transaction {txhash}")

end CosmosClient.Client

namespace CosmosClient.Proofs
open Client Course

variable {txhash : String} {attempts : Nat} {es : List (Request × Response)}
  {r : Except Failure TxInfo}

lemma isMissing_iff {response : Response} :
    IsMissing response ↔ ∃ e, reportOf response = .error e ∧ e.isNotFound := by
  simp only [IsMissing, RequestError.isNotFound_iff, holds_iff]
  constructor
  · rintro ⟨url, status, code, message, hreport, hmissing⟩
    exact ⟨_, hreport, url, status, code, message, rfl, hmissing⟩
  · rintro ⟨e, hreport, url, status, code, message, rfl, hmissing⟩
    exact ⟨url, status, code, message, hreport, hmissing⟩

lemma polled_cons {response : Response} (hresponse : IsMissing response)
    (h : Polled txhash attempts es r) :
    Polled txhash (attempts + 1) ((looking txhash, response) :: es) r := by
  cases h with
  | @timedOut missing hmissing hlength =>
    have hall : ∀ x ∈ response :: missing, IsMissing x :=
      List.forall_mem_cons.2 ⟨hresponse, hmissing⟩
    exact .timedOut hall (congrArg (· + 1) hlength)
  | @answered missing last hmissing hlength hlast =>
    have hall : ∀ x ∈ response :: missing, IsMissing x :=
      List.forall_mem_cons.2 ⟨hresponse, hmissing⟩
    exact .answered hall (Nat.succ_lt_succ hlength) hlast

lemma polled_nil (txhash : String) : Polled txhash 0 []
    (.error (Failure.text s!"Timed out waiting for {txhash} to be ready")) := by
  have hnone : ∀ response ∈ ([] : List Response), IsMissing response := by simp
  exact .timedOut hnone rfl

lemma polled_singleton (txhash : String) (attempts : Nat) {response : Response}
    (hresponse : ¬IsMissing response) :
    Polled txhash (attempts + 1) [(looking txhash, response)]
      ((reportOf response).mapError fun e =>
        e.toFailure.within s!"Unable to get transaction {txhash}") := by
  have hnone : ∀ response ∈ ([] : List Response), IsMissing response := by simp
  exact .answered hnone (Nat.succ_pos _) hresponse

lemma waitFor_run (txhash : String) (attempts : Nat) :
    (waitFor txhash (attempts + 1)).run = .ask (looking txhash) fun response =>
      match reportOf response with
      | .ok info => .done (.ok info)
      | .error e =>
        if e.isNotFound then .sleep delay (waitFor txhash attempts).run
        else .done (.error (e.toFailure.within s!"Unable to get transaction {txhash}")) := by
  have hlook : (ExceptT.lift (txInfo txhash).run : ExceptT Failure Program _).run =
      .ask (looking txhash) fun response => .done (.ok (reportOf response)) :=
    congrArg (Except.ok <$> ·) (fetch_run _ _)
  refine (bind_asked hlook _).trans (congrArg (Course.ask _) ?_)
  funext response
  cases reportOf response with
  | ok info => rfl
  | error e =>
    show (if _ then _ else _ : ExceptT Failure Program TxInfo).run = if _ then _ else _
    split <;> rfl

/-- Only an answer that the transaction is not found leads to another look. -/
lemma goes_waitFor (h : (waitFor txhash attempts).run.Goes es r) : Polled txhash attempts es r := by
  induction attempts generalizing es r with
  | zero =>
    obtain ⟨rfl, rfl⟩ := goes_throw h
    exact polled_nil txhash
  | succ attempts ih =>
    rw [waitFor_run] at h
    cases h with
    | @ask _ _ response es _ h =>
    by_cases hmissing : IsMissing response
    · obtain ⟨e, hreport, hnotFound⟩ := isMissing_iff.1 hmissing
      simp only [hreport, hnotFound, if_true] at h
      cases h with
      | sleep h => exact polled_cons hmissing (ih h)
    · have hpolled := polled_singleton txhash attempts hmissing
      cases hreport : reportOf response with
      | ok info =>
        simp only [hreport] at h hpolled
        obtain ⟨rfl, rfl⟩ := goes_done h
        exact hpolled
      | error e =>
        have hfailed : ¬e.isNotFound := fun hnotFound =>
          hmissing (isMissing_iff.2 ⟨e, hreport, hnotFound⟩)
        simp only [hreport, hfailed] at h hpolled
        obtain ⟨rfl, rfl⟩ := goes_done h
        exact hpolled

lemma polled_looking (h : Polled txhash attempts es r) : ∀ e ∈ es, e.1 = looking txhash := by
  cases h with
  | timedOut => simp
  | answered =>
    intro e he
    obtain ⟨response, -, rfl⟩ := List.mem_map.1 he
    rfl

/-- The transaction is found when the last answer reports on it. -/
lemma polled_ok_iff {info : TxInfo} (h : Polled txhash attempts es r) :
    r = .ok info ↔
      ∃ front last, es = front ++ [(looking txhash, last)] ∧ reportOf last = .ok info := by
  have hreported {last : Response} (hlast : reportOf last = .ok info) : ¬IsMissing last := by
    rintro ⟨_, _, _, _, he, -⟩
    exact absurd (hlast.symm.trans he) (by simp)
  cases h with
  | @timedOut missing hmissing hlength =>
    refine iff_of_false (by simp) ?_
    rintro ⟨front, last, hes, hlast⟩
    have hmem : (looking txhash, last) ∈ missing.map fun response => (looking txhash, response) := by
      rw [hes]
      simp
    obtain ⟨response, hresponse, heq⟩ := List.mem_map.1 hmem
    obtain rfl := (Prod.mk.inj heq).2
    exact hreported hlast (hmissing _ hresponse)
  | @answered missing last hmissing hlength hlast =>
    rw [mapError_eq_ok, List.map_append, List.map_singleton]
    constructor
    · intro hinfo
      exact ⟨_, last, rfl, hinfo⟩
    · rintro ⟨front, last', hes, hinfo⟩
      obtain ⟨-, heq⟩ := List.append_inj' hes rfl
      obtain rfl : last = last' := (Prod.mk.inj (List.cons.inj heq).1).2
      exact hinfo

lemma waitFor_goes_missing {response : Response} (hresponse : IsMissing response)
    (h : (waitFor txhash attempts).run.Goes es r) :
    (waitFor txhash (attempts + 1)).run.Goes ((looking txhash, response) :: es) r := by
  obtain ⟨e, hreport, hnotFound⟩ := isMissing_iff.1 hresponse
  rw [waitFor_run]
  refine .ask ?_
  simp only [hreport, hnotFound, if_true]
  exact .sleep h

lemma waitFor_goes_found {response : Response} {info : TxInfo}
    (hreport : reportOf response = .ok info) :
    (waitFor txhash (attempts + 1)).run.Goes [(looking txhash, response)] (.ok info) := by
  rw [waitFor_run]
  refine .ask ?_
  simp only [hreport]
  exact .done _

end CosmosClient.Proofs
