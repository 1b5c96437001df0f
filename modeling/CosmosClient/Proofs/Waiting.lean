import Mathlib
import CosmosClient.Proofs.BroadcastSchedule
import CosmosClient.Proofs.EndpointTurns

/-!
# Waiting for a transaction

A search makes one look after the other, each with the attempts of a request, and pauses behind every
look that finds nothing. A broadcast in block mode is such a search once the node has accepted the
transaction, and no search otherwise.
-/

namespace CosmosClient

/-- A move of a run. -/
inductive Move (act ans : Type) where
  | exchange (a : act) (x : ans)
  | pause (seconds : Nat)

def Move.answer? {act ans : Type} : Move act ans → Option ans
  | .exchange _ x => some x
  | .pause _ => none

namespace Course

variable {act ans α σ : Type}

/-- The moves of a run in their order. -/
def moves (answer : σ → act → ans × σ) (pause : σ → Nat → σ) :
    Course act ans α → σ → List (Move act ans)
  | .done _, _ => []
  | .ask a next, s =>
    let (x, s) := answer s a
    .exchange a x :: moves answer pause (next x) s
  | .sleep seconds next, s => .pause seconds :: moves answer pause next (pause s seconds)

/-- A course can make moves up to a result. -/
inductive Makes : Course act ans α → List (Move act ans) → α → Prop where
  | done (a : α) : Makes (.done a) [] a
  | ask {a : act} {next : ans → Course act ans α} {x : ans} {ms : List (Move act ans)} {r : α}
      (h : Makes (next x) ms r) : Makes (.ask a next) (.exchange a x :: ms) r
  | sleep {seconds : Nat} {next : Course act ans α} {ms : List (Move act ans)} {r : α}
      (h : Makes next ms r) : Makes (.sleep seconds next) (.pause seconds :: ms) r

theorem Makes.bind {β : Type} {p : Course act ans α} {f : α → Course act ans β}
    {front back : List (Move act ans)} {a : α} {r : β} (hp : p.Makes front a)
    (hf : (f a).Makes back r) : (p.bind f).Makes (front ++ back) r := by
  induction hp with
  | done a => exact hf
  | ask h ih => exact .ask (ih hf)
  | sleep h ih => exact .sleep (ih hf)

/-- Whatever moves a course can make, it does make when it is answered that way. -/
theorem replay_moves {p : Course act ans α} {ms : List (Move act ans)} {r : α} (h : p.Makes ms r)
    (otherwise : ans) :
    p.moves (replay otherwise) (fun script _ => script) (ms.filterMap Move.answer?) = ms ∧
      (p.run (replay otherwise) (fun script _ => script) (ms.filterMap Move.answer?)).1 = r := by
  induction h with
  | done a => exact ⟨rfl, rfl⟩
  | ask h ih => exact ⟨congrArg (_ :: ·) ih.1, ih.2⟩
  | sleep h ih => exact ⟨congrArg (_ :: ·) ih.1, ih.2⟩

end Course

/-- The moves of single attempts. -/
abbrev AttemptMoves := List (Move Request (String × Reply))

/-- A request as it was made: the replies to the attempts that were followed by another one, and the
last reply. -/
structure Inquiry where
  request : Request
  failed : List (String × Reply)
  last : String × Reply

namespace Inquiry

def response (c : ClientConfig) (i : Inquiry) : Response :=
  i.request.respond c i.last.1 i.last.2

def moves (i : Inquiry) : AttemptMoves :=
  (i.failed ++ [i.last]).map fun reply => .exchange i.request reply

/-- The attempts are those that the configuration wants. -/
structure Follows (c : ClientConfig) (i : Inquiry) : Prop where
  retryable : ∀ reply ∈ i.failed, Retryable (i.request.respond c reply.1 reply.2)
  limit : i.failed.length ≤ c.queryRetries.toNat
  exhausted : Retryable (i.response c) → i.failed.length = c.queryRetries.toNat

end Inquiry

namespace Client

/-- A look for a transaction. -/
def IsLook (c : ClientConfig) (txhash : String) (i : Inquiry) : Prop :=
  i.request = looking txhash ∧ i.Follows c

/-- A look for a transaction that does not find it. -/
def Misses (c : ClientConfig) (txhash : String) (i : Inquiry) : Prop :=
  IsLook c txhash i ∧ IsMissing (i.response c)

/-- What a node has said of a transaction, with the report on it in place of the rest. -/
def settledBy (b : Broadcast) (info : TxInfo) : Broadcast :=
  { b with
    height := info.height
    code := info.code.getD 0
    codespace := info.codespace.getD ""
    rawLog := info.rawLog
    info := some info }

/-- The failure of a search that has made all of its looks. -/
def timedOut (txhash : String) : Failure :=
  Failure.text s!"Timed out waiting for {txhash} to be ready"

/-- Looks with a pause behind each of them. -/
def paused (looks : List Inquiry) : AttemptMoves :=
  looks.flatMap fun look => look.moves ++ [.pause 2]

/-- The moves of a search in no more looks than a number, with its result. -/
inductive Waited (c : ClientConfig) (txhash : String) (attempts : Nat) :
    AttemptMoves → Except Failure TxInfo → Prop where
  | timedOut {missing : List Inquiry} (hmissing : ∀ look ∈ missing, Misses c txhash look)
      (hlength : missing.length = attempts) :
      Waited c txhash attempts (paused missing) (.error (timedOut txhash))
  | answered {missing : List Inquiry} {last : Inquiry}
      (hmissing : ∀ look ∈ missing, Misses c txhash look) (hlength : missing.length < attempts)
      (hlook : IsLook c txhash last) (hlast : ¬IsMissing (last.response c)) :
      Waited c txhash attempts (paused missing ++ last.moves)
        ((reportOf (last.response c)).mapError fun e =>
          e.toFailure.within s!"Unable to get transaction {txhash}")

end Client
end CosmosClient

namespace CosmosClient.Proofs
open Course Client
open Wallet (answerOf handing)

variable {act ans act' ans' α β σ : Type}

/-- A run makes its moves up to its result. -/
theorem makes_run (answer : σ → act → ans × σ) (pause : σ → Nat → σ) (p : Course act ans α) (s : σ) :
    p.Makes (p.moves answer pause s) (p.run answer pause s).1 := by
  induction p generalizing s with
  | done a => exact .done a
  | ask a next ih => exact .ask (ih _ _)
  | sleep seconds next ih => exact .sleep (ih _)

lemma makes_done {a r : α} {ms : List (Move act ans)}
    (h : (Course.done a : Course act ans α).Makes ms r) : ms = [] ∧ r = a := by
  cases h
  exact ⟨rfl, rfl⟩

lemma makes_bind {p : Course act ans α} {f : α → Course act ans β} {ms : List (Move act ans)} {r : β}
    (h : (p.bind f).Makes ms r) :
    ∃ front a back, ms = front ++ back ∧ p.Makes front a ∧ (f a).Makes back r := by
  induction p generalizing ms with
  | done a => exact ⟨[], a, ms, rfl, .done a, h⟩
  | ask a next ih =>
    cases h with
    | ask h =>
      obtain ⟨front, b, back, rfl, hp, hf⟩ := ih _ h
      exact ⟨_ :: front, b, back, rfl, .ask hp, hf⟩
  | sleep seconds next ih =>
    cases h with
    | sleep h =>
      obtain ⟨front, b, back, rfl, hp, hf⟩ := ih h
      exact ⟨_ :: front, b, back, rfl, .sleep hp, hf⟩

lemma refine_bind (g : act → Course act' ans' ans) (p : Course act ans α)
    (f : α → Course act ans β) : (p.bind f).refine g = (p.refine g).bind fun a => (f a).refine g := by
  induction p with
  | done a => rfl
  | ask a next ih =>
    show (g a).bind (fun x => ((next x).bind f).refine g) = _
    rw [Course.refine, bind_assoc]
    exact congrArg (g a).bind (funext fun x => ih x)
  | sleep seconds next ih => exact congrArg (sleep seconds) ih

variable {c : ClientConfig} {ms : AttemptMoves}

/-- Attempts are made as long as they fail in a way that may pass and others are left. -/
lemma makes_attempts {q : Request} {left : Nat} {r : Response} (h : (q.attempts c left).Makes ms r) :
    ∃ failed last, ms = (failed ++ [last]).map (fun reply => .exchange q reply) ∧
      q.respond c last.1 last.2 = r ∧
      (∀ reply ∈ failed, Retryable (q.respond c reply.1 reply.2)) ∧ failed.length ≤ left ∧
      (Retryable r → failed.length = left) := by
  induction left using Nat.strong_induction_on generalizing ms with
  | _ left ih =>
    obtain ⟨next, hask, hnext⟩ := attempts_eq_ask c q left
    rw [hask] at h
    cases h with
    | @ask _ _ reply ms _ h =>
    obtain ⟨hretry, fewer, rfl, hmore⟩ | ⟨hretry, hdone⟩ := hnext reply
    · rw [hmore] at h
      obtain ⟨failed, last, rfl, hlast, hfailed, hlength, hexhausted⟩ :=
        ih fewer (Nat.lt_succ_self fewer) h
      refine ⟨reply :: failed, last, rfl, hlast, List.forall_mem_cons.2 ⟨hretry, hfailed⟩,
        Nat.succ_le_succ hlength, fun hr => congrArg (· + 1) (hexhausted hr)⟩
    · rw [hdone] at h
      obtain ⟨rfl, rfl⟩ := makes_done h
      exact ⟨[], reply, rfl, rfl, by simp, Nat.zero_le _, fun hr => (hretry hr).symm⟩

lemma makes_perform {q : Request} {r : Response} (h : (q.perform c).Makes ms r) :
    ∃ i : Inquiry, i.request = q ∧ i.Follows c ∧ ms = i.moves ∧ i.response c = r := by
  obtain ⟨failed, last, rfl, rfl, hfailed, hlength, hexhausted⟩ := makes_attempts h
  exact ⟨⟨q, failed, last⟩, rfl, ⟨hfailed, hlength, hexhausted⟩, rfl, rfl⟩

lemma attempts_make {q : Request} {failed : List (String × Reply)} {last : String × Reply} {left : Nat}
    (hfailed : ∀ reply ∈ failed, Retryable (q.respond c reply.1 reply.2))
    (hlength : failed.length ≤ left)
    (hexhausted : Retryable (q.respond c last.1 last.2) → failed.length = left) :
    (q.attempts c left).Makes ((failed ++ [last]).map fun reply => .exchange q reply)
      (q.respond c last.1 last.2) := by
  induction failed generalizing left with
  | nil =>
    obtain ⟨next, hask, hnext⟩ := attempts_eq_ask c q left
    rw [hask]
    refine .ask ?_
    obtain ⟨hretry, fewer, rfl, -⟩ | ⟨-, hdone⟩ := hnext last
    · exact absurd (hexhausted hretry) (Nat.succ_ne_zero fewer).symm
    · rw [hdone]
      exact .done _
  | cons reply failed ih =>
    obtain ⟨hfirst, hothers⟩ := List.forall_mem_cons.1 hfailed
    obtain ⟨next, hask, hnext⟩ := attempts_eq_ask c q left
    rw [hask]
    refine .ask ?_
    obtain ⟨-, fewer, rfl, hmore⟩ | ⟨hretry, -⟩ := hnext reply
    · rw [hmore]
      exact ih hothers (Nat.le_of_succ_le_succ hlength) fun h => Nat.succ.inj (hexhausted h)
    · rw [hretry hfirst] at hlength
      exact absurd hlength (Nat.not_succ_le_zero _)

lemma perform_makes {i : Inquiry} (h : i.Follows c) :
    (i.request.perform c).Makes i.moves (i.response c) :=
  attempts_make h.retryable h.limit h.exhausted

/-- What is asked for first is made in its attempts before anything else. -/
lemma makes_asked {q : Request} {next : Response → Program α} {r : α}
    (h : (Program.attempts c (.ask q next)).Makes ms r) :
    ∃ (i : Inquiry) (rest : AttemptMoves), i.request = q ∧ i.Follows c ∧ ms = i.moves ++ rest ∧
      (Program.attempts c (next (i.response c))).Makes rest r := by
  obtain ⟨front, x, rest, rfl, hfront, hrest⟩ := makes_bind h
  obtain ⟨i, hq, hfollows, rfl, rfl⟩ := makes_perform hfront
  exact ⟨i, rest, hq, hfollows, rfl, hrest⟩

/-! ### Searches -/

variable {txhash : String} {attempts : Nat} {r : Except Failure TxInfo}

lemma waited_cons {look : Inquiry} (hlook : Misses c txhash look)
    (h : Waited c txhash attempts ms r) :
    Waited c txhash (attempts + 1) (look.moves ++ .pause 2 :: ms) r := by
  cases h with
  | @timedOut missing hmissing hlength =>
    have hall : ∀ x ∈ look :: missing, Misses c txhash x := List.forall_mem_cons.2 ⟨hlook, hmissing⟩
    have hwaited := Waited.timedOut hall (congrArg (· + 1) hlength)
    simpa [paused] using hwaited
  | @answered missing last hmissing hlength hlast hfound =>
    have hall : ∀ x ∈ look :: missing, Misses c txhash x := List.forall_mem_cons.2 ⟨hlook, hmissing⟩
    have hwaited := Waited.answered hall (Nat.succ_lt_succ hlength) hlast hfound
    simpa [paused] using hwaited

lemma waited_nil : Waited c txhash 0 [] (.error (timedOut txhash)) := by
  have hnone : ∀ look ∈ ([] : List Inquiry), Misses c txhash look := by simp
  exact .timedOut hnone rfl

lemma waited_singleton (attempts : Nat) {look : Inquiry} (hlook : IsLook c txhash look)
    (hfound : ¬IsMissing (look.response c)) :
    Waited c txhash (attempts + 1) look.moves
      ((reportOf (look.response c)).mapError fun e =>
        e.toFailure.within s!"Unable to get transaction {txhash}") := by
  have hnone : ∀ look ∈ ([] : List Inquiry), Misses c txhash look := by simp
  exact .answered hnone (Nat.succ_pos _) hlook hfound

/-- A pause comes behind a look that finds nothing, and only there. -/
lemma makes_waitFor (h : (Program.attempts c (waitFor txhash attempts).run).Makes ms r) :
    Waited c txhash attempts ms r := by
  induction attempts generalizing ms with
  | zero =>
    obtain ⟨rfl, rfl⟩ := makes_done h
    exact waited_nil
  | succ attempts ih =>
    rw [waitFor_run] at h
    obtain ⟨look, rest, hq, hfollows, rfl, hrest⟩ := makes_asked h
    by_cases hmissing : IsMissing (look.response c)
    · obtain ⟨e, hreport, hnotFound⟩ := isMissing_iff.1 hmissing
      simp only [hreport, hnotFound, if_true] at hrest
      cases hrest with
      | sleep hrest => exact waited_cons ⟨⟨hq, hfollows⟩, hmissing⟩ (ih hrest)
    · have hwaited := waited_singleton attempts ⟨hq, hfollows⟩ hmissing
      cases hreport : reportOf (look.response c) with
      | ok info =>
        simp only [hreport] at hrest hwaited
        obtain ⟨rfl, rfl⟩ := makes_done hrest
        rwa [List.append_nil]
      | error e =>
        have hfailed : ¬e.isNotFound := fun hnotFound =>
          hmissing (isMissing_iff.2 ⟨e, hreport, hnotFound⟩)
        simp only [hreport, hfailed] at hrest hwaited
        obtain ⟨rfl, rfl⟩ := makes_done hrest
        rwa [List.append_nil]

lemma look_makes {look : Inquiry} {rest : AttemptMoves} (hlook : IsLook c txhash look)
    (h : (Program.attempts c (match reportOf (look.response c) with
      | .ok info => .done (.ok info)
      | .error e =>
        if e.isNotFound then .sleep delay (waitFor txhash attempts).run
        else .done (.error (e.toFailure.within s!"Unable to get transaction {txhash}")))).Makes
      rest r) :
    (Program.attempts c (waitFor txhash (attempts + 1)).run).Makes (look.moves ++ rest) r := by
  obtain ⟨hq, hfollows⟩ := hlook
  rw [waitFor_run, ← hq]
  exact (perform_makes hfollows).bind h

lemma misses_make {look : Inquiry} (hlook : Misses c txhash look)
    (h : (Program.attempts c (waitFor txhash attempts).run).Makes ms r) :
    (Program.attempts c (waitFor txhash (attempts + 1)).run).Makes
      (look.moves ++ .pause 2 :: ms) r := by
  obtain ⟨e, hreport, hnotFound⟩ := isMissing_iff.1 hlook.2
  refine look_makes hlook.1 ?_
  simp only [hreport, hnotFound, if_true]
  exact .sleep h

lemma finds_makes {look : Inquiry} (hlook : IsLook c txhash look)
    (hfound : ¬IsMissing (look.response c)) :
    (Program.attempts c (waitFor txhash (attempts + 1)).run).Makes look.moves
      ((reportOf (look.response c)).mapError fun e =>
        e.toFailure.within s!"Unable to get transaction {txhash}") := by
  rw [← List.append_nil look.moves]
  refine look_makes hlook ?_
  cases hreport : reportOf (look.response c) with
  | ok info => exact .done _
  | error e =>
    have hfailed : ¬e.isNotFound := fun hnotFound =>
      hfound (isMissing_iff.2 ⟨e, hreport, hnotFound⟩)
    simp only [hfailed]
    exact .done _

lemma getLast?_moves (i : Inquiry) : i.moves.getLast? = some (.exchange i.request i.last) := by
  simp [Inquiry.moves]

lemma getLast?_paused {looks : List Inquiry} (h : looks ≠ []) :
    (paused looks).getLast? = some (.pause 2) := by
  obtain ⟨front, look, rfl⟩ := List.eq_nil_or_concat looks |>.resolve_left h
  simp [paused]

/-- The search has failed for want of looks exactly when none of its looks found anything: it ends in
a pause then, and in an exchange otherwise. -/
lemma waited_timedOut_iff (h : Waited c txhash attempts ms r) :
    r = .error (timedOut txhash) ↔ ∃ missing, (∀ look ∈ missing, Misses c txhash look) ∧
      missing.length = attempts ∧ ms = paused missing := by
  cases h with
  | @timedOut missing hmissing hlength => exact iff_of_true rfl ⟨missing, hmissing, hlength, rfl⟩
  | @answered missing last hmissing hlength hlook hlast =>
    apply iff_of_false
    · intro hr
      obtain ⟨e, -, he⟩ := mapError_eq_error.1 hr
      exact absurd (congrArg Failure.contexts he) (by simp [Failure.within, timedOut, Failure.text])
    · rintro ⟨all, -, hall, hms⟩
      have hne : all ≠ [] := by
        rintro rfl
        exact Nat.ne_zero_of_lt hlength hall.symm
      have hend := congrArg List.getLast? hms
      rw [List.getLast?_append, getLast?_moves, getLast?_paused hne] at hend
      exact absurd hend (by simp)

lemma broadcast_unsent (c : ClientConfig) {t : Tx} {e : ParseError} (he : t.toBase64 = .error e) :
    (Client.broadcast c t .block).run = .done (.error e.toFailure) := by
  unfold Client.broadcast sendTx
  rw [he]
  rfl

/-- Only a transaction that the node accepts is waited for. -/
lemma broadcast_run {t : Tx} {text : String} (htext : t.toBase64 = .ok text) :
    (Client.broadcast c t .block).run = .ask (handing text) fun response =>
      match answerOf response with
      | .error e => .done (.error (e.toFailure.within "Unable to broadcast transaction"))
      | .ok b =>
        if b.code = 0 then
          (waitForTx c b.txhash).run.bind fun x => .done (x.map (settledBy b))
        else .done (.ok b) := by
  have hsend : (sendTx t .block).run = .ask (handing text) fun response =>
      .done ((answerOf response).mapError
        fun e => e.toFailure.within "Unable to broadcast transaction") := sendTx_run htext
  refine (bind_asked hsend _).trans (congrArg (Course.ask _) ?_)
  funext response
  cases answerOf response with
  | error e => rfl
  | ok b =>
    by_cases hcode : b.code = 0
    · have hwait : ¬(BroadcastMode.block ≠ .block ∨ ¬b.isSuccess) := by
        simp [Broadcast.isSuccess, hcode]
      simp only [mapError_ok, if_neg hwait, if_pos hcode]
      refine congrArg (waitForTx c b.txhash).run.bind (funext fun x => ?_)
      cases x <;> rfl
    · have hfailed : BroadcastMode.block ≠ .block ∨ ¬b.isSuccess := by
        simp [Broadcast.isSuccess, hcode]
      simp only [mapError_ok, if_pos hfailed, if_neg hcode]
      rfl

/-- What a broadcast in block mode does once the node has answered. -/
lemma makes_broadcast {t : Tx} {text : String} {r : Except Failure Broadcast}
    (htext : t.toBase64 = .ok text)
    (h : (Program.attempts c (Client.broadcast c t .block).run).Makes ms r) :
    ∃ (sent : Inquiry) (rest : AttemptMoves), sent.request = handing text ∧ sent.Follows c ∧
      ms = sent.moves ++ rest ∧
      (∀ e, answerOf (sent.response c) = .error e → rest = [] ∧
        r = .error (e.toFailure.within "Unable to broadcast transaction")) ∧
      (∀ b, answerOf (sent.response c) = .ok b → b.code ≠ 0 → rest = [] ∧ r = .ok b) ∧
      ∀ b, answerOf (sent.response c) = .ok b → b.code = 0 →
        ∃ x, Waited c b.txhash c.transactionAttempts.toNat rest x ∧ r = x.map (settledBy b) := by
  rw [broadcast_run htext] at h
  obtain ⟨sent, rest, hq, hfollows, rfl, hrest⟩ := makes_asked h
  refine ⟨sent, rest, hq, hfollows, rfl, ?error, ?refused, ?accepted⟩
  case error =>
    intro e he
    simp only [he] at hrest
    exact makes_done hrest
  case refused =>
    intro b hb hcode
    simp only [hb, if_neg hcode] at hrest
    exact makes_done hrest
  case accepted =>
    intro b hb hcode
    simp only [hb, if_pos hcode, Program.attempts, refine_bind] at hrest
    obtain ⟨front, x, back, rfl, hwait, hdone⟩ := makes_bind hrest
    obtain ⟨rfl, rfl⟩ := makes_done hdone
    rw [List.append_nil]
    exact ⟨x, makes_waitFor hwait, rfl⟩

/-- Whatever answers the attempts of a client. A search for a transaction makes no more looks than
the configuration allows, each with the attempts of a request, and ends at the first one that is
answered otherwise than by its not being found: with the report, or with the error in its context. A
pause of two seconds comes behind each look before, and there is no other. The search has failed for
want of looks exactly when all of them were made and found nothing. A broadcast in block mode sends
the transaction, if it has an encoding, and makes such a search exactly when the node accepts it; what
it tells is then taken from the report. -/
theorem waiting_moves {σ : Type} (c : ClientConfig)
    (answer : σ → Request → (String × Reply) × σ) (pause : σ → Nat → σ) (s : σ) :
    (∀ txhash,
      let search := Program.attempts c (waitForTx c txhash).run
      let ms := search.moves answer pause s
      let r := (search.run answer pause s).1
      Waited c txhash c.transactionAttempts.toNat ms r ∧
      (r = .error (timedOut txhash) ↔ ∃ missing, (∀ look ∈ missing, Misses c txhash look) ∧
        missing.length = c.transactionAttempts.toNat ∧ ms = paused missing)) ∧
    ∀ t,
      let broadcast := Program.attempts c (Client.broadcast c t .block).run
      let ms := broadcast.moves answer pause s
      let r := (broadcast.run answer pause s).1
      (∀ e, t.toBase64 = .error e → ms = [] ∧ r = .error e.toFailure) ∧
      ∀ text, t.toBase64 = .ok text →
        ∃ (sent : Inquiry) (rest : AttemptMoves), sent.request = handing text ∧ sent.Follows c ∧
          ms = sent.moves ++ rest ∧
          (∀ e, answerOf (sent.response c) = .error e → rest = [] ∧
            r = .error (e.toFailure.within "Unable to broadcast transaction")) ∧
          (∀ b, answerOf (sent.response c) = .ok b → b.code ≠ 0 → rest = [] ∧ r = .ok b) ∧
          ∀ b, answerOf (sent.response c) = .ok b → b.code = 0 →
            ∃ x, Waited c b.txhash c.transactionAttempts.toNat rest x ∧
              (∀ f, x = .error f → r = .error f) ∧
              ∀ info, x = .ok info → ∃ b', r = .ok b' ∧ b'.height = info.height ∧
                b'.code = info.code.getD 0 ∧ b'.codespace = info.codespace.getD "" ∧
                b'.rawLog = info.rawLog ∧ b'.info = some info ∧ b'.txhash = b.txhash := by
  refine ⟨?search, ?broadcast⟩
  case search =>
    intro txhash search ms r
    have hwaited := makes_waitFor (makes_run answer pause search s)
    exact ⟨hwaited, waited_timedOut_iff hwaited⟩
  case broadcast =>
    intro t broadcast ms r
    have hmakes : broadcast.Makes ms r := makes_run answer pause broadcast s
    constructor
    · intro e he
      have hunsent : broadcast = .done (.error e.toFailure) :=
        congrArg (Program.attempts c) (broadcast_unsent c he)
      rw [hunsent] at hmakes
      exact makes_done hmakes
    · intro text htext
      obtain ⟨sent, rest, hq, hfollows, hms, herror, hrefused, haccepted⟩ :=
        makes_broadcast htext hmakes
      refine ⟨sent, rest, hq, hfollows, hms, herror, hrefused, fun b hb hcode => ?_⟩
      obtain ⟨x, hwaited, hr⟩ := haccepted b hb hcode
      refine ⟨x, hwaited, ?_, ?_⟩
      · rintro f rfl
        exact hr
      · rintro info rfl
        exact ⟨_, hr, rfl, rfl, rfl, rfl, rfl, rfl⟩

/-- A client that looks for a transaction three times and repeats a request once. -/
def patientConfig : ClientConfig :=
  { chainId := "chain", gasPrices := ⟨[]⟩, hrp := .cosmos, url := "http://lcd0"
    setTransactionAttempts := some 3, setQueryRetries := some 1 }

/-- A look at a node that is not ready, and then does not know the transaction. -/
def missedLook : Inquiry :=
  ⟨looking "AB", [("http://lcd0", .answer 503 "tx not found")], ("http://lcd0", .answer 404 "")⟩

def foundLook : Inquiry :=
  ⟨looking "AB", [], ("http://lcd0", .answer 200
    ("\x7b\"tx_response\":[7,\"AB\",\"\",null,1,1," ++
      "[[[],\"\",\"0\"],[[],[[],\"1\"]],[]],\"\",[]]\x7d"))⟩

/-- The first look fails twice and is followed by a pause, the second one finds the transaction. -/
theorem missedLook_found :
    let search := Program.attempts patientConfig (waitForTx patientConfig "AB").run
    let script := missedLook.failed ++ [missedLook.last, foundLook.last]
    let answer := Course.replay ("http://lcd0", .hung)
    let ms := search.moves answer (fun script _ => script) script
    ms = missedLook.moves ++ .pause 2 :: foundLook.moves ∧
    ∃ info, (search.run answer (fun script _ => script) script).1 = .ok info ∧
      Waited patientConfig "AB" 3 ms (.ok info) := by
  intro search script answer ms
  have hmissed : Misses patientConfig "AB" missedLook := by
    refine ⟨⟨rfl, ⟨?_, by decide, ?_⟩⟩, ?_⟩
    · intro reply hreply
      obtain rfl := List.mem_singleton.1 hreply
      exact ⟨_, respond_of_failure (by decide), rfl⟩
    · exact fun _ => rfl
    · obtain ⟨code, message, hlast⟩ : ∃ code message, missedLook.response patientConfig =
          .error (.endpoint "http://lcd0" 404 code message) :=
        ⟨_, _, respond_of_failure (by decide)⟩
      exact ⟨_, _, _, _, congrArg reportOf hlast, .inl rfl⟩
  obtain ⟨info, hinfo⟩ : ∃ info, reportOf (foundLook.response patientConfig) = .ok info :=
    isOk_iff.1 (by decide +kernel)
  have hlook : IsLook patientConfig "AB" foundLook := by
    refine ⟨rfl, ⟨by simp [foundLook], by decide, ?_⟩⟩
    rintro ⟨e, he, -⟩
    exact absurd he (by simp [foundLook, Inquiry.response, Request.respond, Reply.response])
  have hfound : ¬IsMissing (foundLook.response patientConfig) := by
    rintro ⟨_, _, _, _, he, -⟩
    exact absurd (hinfo.symm.trans he) (by simp)
  have hmakes : search.Makes (missedLook.moves ++ .pause 2 :: foundLook.moves) _ :=
    misses_make hmissed (finds_makes hlook hfound)
  rw [hinfo, mapError_ok] at hmakes
  obtain ⟨hms, hrun⟩ := Course.replay_moves hmakes ("http://lcd0", .hung)
  have hwaited := ((waiting_moves patientConfig answer (fun script _ => script) script).1 "AB").1
  refine ⟨hms, info, hrun, ?_⟩
  rwa [show (search.run answer (fun script _ => script) script).1 = .ok info from hrun] at hwaited

end CosmosClient.Proofs
