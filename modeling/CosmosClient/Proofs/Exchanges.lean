import Mathlib
import CosmosClient.Client.Basic
import CosmosClient.Proofs.Results

/-!
# What courses exchange

A course goes through exchanges, each what was asked for with its answer, to a result. What a course
can go through is known part by part, without running it, and every run goes through something.
-/

namespace CosmosClient.Course

variable {act ans act' ans' α β σ : Type}

/-- The exchanges of a run. -/
def log (answer : σ → act → ans × σ) (pause : σ → Nat → σ) :
    Course act ans α → σ → List (act × ans)
  | .done _, _ => []
  | .ask a next, s =>
    let (x, s) := answer s a
    (a, x) :: log answer pause (next x) s
  | .sleep seconds next, s => log answer pause next (pause s seconds)

/-- A course can go through exchanges to a result. -/
inductive Goes : Course act ans α → List (act × ans) → α → Prop where
  | done (a : α) : Goes (.done a) [] a
  | ask {a : act} {next : ans → Course act ans α} {x : ans} {es : List (act × ans)} {r : α}
      (h : Goes (next x) es r) : Goes (.ask a next) ((a, x) :: es) r
  | sleep {seconds : Nat} {next : Course act ans α} {es : List (act × ans)} {r : α}
      (h : Goes next es r) : Goes (.sleep seconds next) es r

theorem bind_assoc {γ : Type} (p : Course act ans α) (f : α → Course act ans β)
    (g : β → Course act ans γ) : (p.bind f).bind g = p.bind fun a => (f a).bind g := by
  induction p with
  | done a => rfl
  | ask a next ih => exact congrArg (ask a) (funext fun x => ih x)
  | sleep seconds next ih => exact congrArg (sleep seconds) ih

theorem bind_done (p : Course act ans α) : p.bind done = p := by
  induction p with
  | done a => rfl
  | ask a next ih => exact congrArg (ask a) (funext fun x => ih x)
  | sleep seconds next ih => exact congrArg (sleep seconds) ih

instance : LawfulMonad (Course act ans) :=
  LawfulMonad.mk' (Course act ans) bind_done (fun _ _ => rfl) bind_assoc

theorem Goes.bind {p : Course act ans α} {f : α → Course act ans β} {front back : List (act × ans)}
    {a : α} {r : β} (hp : p.Goes front a) (hf : (f a).Goes back r) :
    (p.bind f).Goes (front ++ back) r := by
  induction hp with
  | done a => exact hf
  | ask h ih => exact .ask (ih hf)
  | sleep h ih => exact .sleep (ih hf)

theorem Goes.bind_of_nil {p : Course act ans α} {f : α → Course act ans β} {es : List (act × ans)}
    {a : α} {r : β} (hp : p.Goes es a) (hf : (f a).Goes [] r) : (p.bind f).Goes es r := by
  have hbind := hp.bind hf
  rwa [List.append_nil] at hbind

theorem Goes.refine {f : act → Course act' ans' ans} {p : Course act ans α} {r : α}
    (parts : List ((act × ans) × List (act' × ans'))) (hp : p.Goes (parts.map (·.1)) r)
    (hparts : ∀ part ∈ parts, (f part.1.1).Goes part.2 part.1.2) :
    (p.refine f).Goes (parts.flatMap (·.2)) r := by
  generalize hes : parts.map (·.1) = es at hp
  induction hp generalizing parts with
  | done a =>
    obtain rfl := List.map_eq_nil_iff.1 hes
    exact .done a
  | ask h ih =>
    obtain ⟨part, rest, rfl, hpart, hrest⟩ := List.map_eq_cons_iff.1 hes
    obtain ⟨hfirst, hmore⟩ := List.forall_mem_cons.1 hparts
    rw [hpart] at hfirst
    exact hfirst.bind (ih rest hmore hrest)
  | sleep h ih => exact .sleep (ih parts hparts hes)

/-- Answers with what is left of a script. -/
def replay (otherwise : ans) (script : List ans) (_ : act) : ans × List ans :=
  (script.headD otherwise, script.tail)

/-- Whatever a course can go through, it does go through when it is answered that way, and what comes
after in the script is left. -/
theorem replay_append {p : Course act ans α} {es : List (act × ans)} {r : α} (h : p.Goes es r)
    (otherwise : ans) (rest : List ans) :
    p.log (replay otherwise) (fun script _ => script) (es.map (·.2) ++ rest) = es ∧
      p.run (replay otherwise) (fun script _ => script) (es.map (·.2) ++ rest) = (r, rest) := by
  induction h with
  | done a => exact ⟨rfl, rfl⟩
  | ask h ih => exact ⟨congrArg (_ :: ·) ih.1, ih.2⟩
  | sleep h ih => exact ih

theorem log_replay {p : Course act ans α} {es : List (act × ans)} {r : α} (h : p.Goes es r)
    (otherwise : ans) :
    p.log (replay otherwise) (fun script _ => script) (es.map (·.2)) = es := by
  have hlog := (replay_append h otherwise []).1
  rwa [List.append_nil] at hlog

end CosmosClient.Course

namespace CosmosClient.Proofs
open Course (Goes)

variable {act ans act' ans' α β σ : Type}

/-- A run goes through its exchanges to its result. -/
theorem goes_run (answer : σ → act → ans × σ) (pause : σ → Nat → σ) (p : Course act ans α) (s : σ) :
    p.Goes (p.log answer pause s) (p.run answer pause s).1 := by
  induction p generalizing s with
  | done a => exact .done a
  | ask a next ih => exact .ask (ih _ _)
  | sleep seconds next ih => exact .sleep (ih _)

lemma goes_done {a r : α} {es : List (act × ans)} (h : (Course.done a : Course act ans α).Goes es r) :
    es = [] ∧ r = a := by
  cases h
  exact ⟨rfl, rfl⟩

lemma goes_bind {p : Course act ans α} {f : α → Course act ans β} {es : List (act × ans)} {r : β}
    (h : (p.bind f).Goes es r) :
    ∃ front a back, es = front ++ back ∧ p.Goes front a ∧ (f a).Goes back r := by
  induction p generalizing es with
  | done a => exact ⟨[], a, es, rfl, .done a, h⟩
  | ask a next ih =>
    cases h with
    | ask h =>
      obtain ⟨front, b, back, rfl, hp, hf⟩ := ih _ h
      exact ⟨_ :: front, b, back, rfl, .ask hp, hf⟩
  | sleep seconds next ih =>
    cases h with
    | sleep h =>
      obtain ⟨front, b, back, rfl, hp, hf⟩ := ih h
      exact ⟨front, b, back, rfl, .sleep hp, hf⟩

/-- Everything that is asked for is itself gone through: the exchanges of the whole are those of the
parts one after the other. -/
lemma goes_refine {f : act → Course act' ans' ans} {p : Course act ans α}
    {es : List (act' × ans')} {r : α} (h : (p.refine f).Goes es r) :
    ∃ parts : List ((act × ans) × List (act' × ans')),
      p.Goes (parts.map (·.1)) r ∧ es = parts.flatMap (·.2) ∧
        ∀ part ∈ parts, (f part.1.1).Goes part.2 part.1.2 := by
  induction p generalizing es with
  | done a =>
    obtain ⟨rfl, rfl⟩ := goes_done h
    exact ⟨[], .done _, rfl, by simp⟩
  | ask a next ih =>
    obtain ⟨front, x, back, rfl, hf, hnext⟩ := goes_bind h
    obtain ⟨parts, hparts, rfl, hall⟩ := ih x hnext
    exact ⟨((a, x), front) :: parts, .ask hparts, rfl, List.forall_mem_cons.2 ⟨hf, hall⟩⟩
  | sleep seconds next ih =>
    cases h with
    | sleep h =>
      obtain ⟨parts, hparts, rfl, hall⟩ := ih h
      exact ⟨parts, .sleep hparts, rfl, hall⟩

variable {ε ε' : Type} {es : List (Request × Response)}

lemma goes_pure {a : α} {r : Except ε α}
    (h : (pure a : ExceptT ε Program α).run.Goes es r) : es = [] ∧ r = .ok a :=
  goes_done h

lemma goes_throw {e : ε} {r : Except ε α}
    (h : (throw e : ExceptT ε Program α).run.Goes es r) : es = [] ∧ r = .error e :=
  goes_done h

lemma goes_bindExcept {p : ExceptT ε Program α} {f : α → ExceptT ε Program β} {r : Except ε β}
    (h : (p >>= f).run.Goes es r) :
    (∃ e, r = .error e ∧ p.run.Goes es (.error e)) ∨
      ∃ front a back, es = front ++ back ∧ p.run.Goes front (.ok a) ∧ (f a).run.Goes back r := by
  obtain ⟨front, x, back, rfl, hp, hf⟩ := goes_bind (p := p.run) h
  cases x with
  | error e =>
    obtain ⟨rfl, rfl⟩ := goes_done hf
    exact .inl ⟨e, rfl, by simpa using hp⟩
  | ok a => exact .inr ⟨front, a, back, rfl, hp, hf⟩

/-- A course whose result is passed on in another form. -/
lemma goes_map {p : ExceptT ε Program α} {f : α → β} {r : Except ε β}
    (h : (p >>= fun a => pure (f a)).run.Goes es r) : ∃ x, p.run.Goes es x ∧ r = x.map f := by
  obtain ⟨e, rfl, hp⟩ | ⟨front, a, back, rfl, hp, hdone⟩ := goes_bindExcept h
  · exact ⟨.error e, hp, rfl⟩
  · obtain ⟨rfl, rfl⟩ := goes_pure hdone
    exact ⟨.ok a, by rwa [List.append_nil], rfl⟩

lemma goes_adapt {p : ExceptT ε Program α} {f : ε → ε'} {r : Except ε' α}
    (h : (p.adapt f).run.Goes es r) : ∃ x : Except ε α, r = x.mapError f ∧ p.run.Goes es x := by
  obtain ⟨front, x, back, rfl, hp, hf⟩ := goes_bind (p := p.run) h
  obtain ⟨rfl, rfl⟩ := goes_done hf
  exact ⟨x, rfl, by simpa using hp⟩

/-- What follows a course that may have failed. -/
lemma goes_attempt {p : ExceptT ε Program α} {f : Except ε α → ExceptT ε' Program β}
    {r : Except ε' β} (h : (ExceptT.lift (p.run) >>= f).run.Goes es r) :
    ∃ front x back, es = front ++ back ∧ p.run.Goes front x ∧ (f x).run.Goes back r := by
  obtain ⟨e, -, hp⟩ | ⟨front, x, back, rfl, hp, hf⟩ := goes_bindExcept h
  · obtain ⟨_, _, _, -, -, hx⟩ := goes_bind (p := p.run) hp
    exact absurd (goes_done hx).2 (by simp)
  · obtain ⟨front, y, nothing, rfl, hp, hx⟩ := goes_bind (p := p.run) hp
    obtain ⟨rfl, hsame⟩ := goes_done hx
    obtain rfl := Except.ok.inj hsame
    exact ⟨front, x, back, by simp, hp, hf⟩

lemma fetch_run (decode : Json.Decoder α) (q : Request) :
    (Client.fetch decode q).run =
      .ask q fun response => .done (Client.contentOf decode response) := rfl

/-- What follows a single request is up to what its answer is taken for. -/
lemma bind_asked {p : ExceptT ε Program α} {q : Request} {g : Response → Except ε α}
    (hp : p.run = .ask q fun response => .done (g response)) (f : α → ExceptT ε Program β) :
    (p >>= f).run = .ask q fun response =>
      match g response with
      | .error e => .done (.error e)
      | .ok a => (f a).run := by
  have hrun : (p >>= f).run = Course.bind p.run (ExceptT.bindCont f) := rfl
  rw [hrun, hp]
  apply congrArg (Course.ask q)
  funext response
  show ExceptT.bindCont f (g response) = _
  cases g response <;> rfl

lemma goes_asked {q : Request} {f : Response → α} {r : α}
    (h : (Course.ask q fun response => Course.done (f response) : Program α).Goes es r) :
    ∃ response, es = [(q, response)] ∧ r = f response := by
  cases h with
  | @ask _ _ response _ _ h =>
    obtain ⟨rfl, rfl⟩ := goes_done h
    exact ⟨response, rfl, rfl⟩

lemma goes_fetch {decode : Json.Decoder α} {q : Request} {r : Except RequestError α}
    (h : (Client.fetch decode q).run.Goes es r) :
    ∃ response, es = [(q, response)] ∧ r = Client.contentOf decode response := by
  rw [fetch_run] at h
  exact goes_asked h

lemma respond_of_failure {c : ClientConfig} {q : Request} {url body : String} {status : Nat}
    (hstatus : ¬(200 ≤ status ∧ status < 300)) :
    q.respond c url (.answer status body) =
      .error (.endpoint url status (Reply.errorOf body).1 (Reply.errorOf body).2) := by
  rw [Request.respond, Reply.response, if_neg hstatus]

/-- All attempts but the last have failed in a way that may pass, and the last one is the response. -/
lemma goes_attempts {c : ClientConfig} {q : Request} {retries : Nat}
    {es : List (Request × (String × Reply))} {r : Response} (h : (q.attempts c retries).Goes es r) :
    ∃ front last, es = (front ++ [last]).map (fun reply => (q, reply)) ∧ front.length ≤ retries ∧
      q.respond c last.1 last.2 = r ∧
      ∀ reply ∈ front, ∃ e, q.respond c reply.1 reply.2 = .error e ∧ e.isRetryable := by
  induction retries generalizing es with
  | zero =>
    cases h with
    | @ask _ _ reply _ _ h =>
      obtain ⟨rfl, rfl⟩ := goes_done h
      exact ⟨[], reply, rfl, le_refl _, rfl, by simp⟩
  | succ retries ih =>
    cases h with
    | @ask _ _ reply _ _ h =>
      cases hreply : q.respond c reply.1 reply.2 with
      | ok page =>
        simp only [hreply] at h
        obtain ⟨rfl, rfl⟩ := goes_done h
        exact ⟨[], reply, rfl, Nat.zero_le _, hreply, by simp⟩
      | error e =>
        by_cases hretry : e.isRetryable
        · simp only [hreply, hretry, if_true] at h
          obtain ⟨front, last, rfl, hlength, hlast, hfront⟩ := ih h
          exact ⟨reply :: front, last, rfl, Nat.succ_le_succ hlength, hlast,
            List.forall_mem_cons.2 ⟨⟨e, hreply, hretry⟩, hfront⟩⟩
        · simp only [hreply, hretry] at h
          obtain ⟨rfl, rfl⟩ := goes_done h
          exact ⟨[], reply, rfl, Nat.zero_le _, hreply, by simp⟩

end CosmosClient.Proofs

namespace CosmosClient.Course.Goes
open Proofs

variable {α β ε ε' : Type}

theorem adapt {p : ExceptT ε Program α} {f : ε → ε'} {es : List (Request × Response)}
    {x : Except ε α} (h : p.run.Goes es x) : (p.adapt f).run.Goes es (x.mapError f) := by
  have hdone := h.bind_of_nil (f := fun x => Course.done (x.mapError f)) (.done _)
  exact hdone

theorem attempt {p : ExceptT ε Program α} {f : Except ε α → ExceptT ε' Program β}
    {front back : List (Request × Response)} {x : Except ε α} {r : Except ε' β}
    (hp : p.run.Goes front x) (hf : (f x).run.Goes back r) :
    (ExceptT.lift p.run >>= f).run.Goes (front ++ back) r := by
  have hlift := hp.bind_of_nil (f := fun x => Course.done (.ok x : Except ε' (Except ε α))) (.done _)
  exact hlift.bind hf

theorem attempts_of_final {c : ClientConfig} {q : Request} (retries : Nat)
    (reply : String × Reply)
    (h : ∀ e, q.respond c reply.1 reply.2 = .error e → ¬e.isRetryable) :
    (q.attempts c retries).Goes [(q, reply)] (q.respond c reply.1 reply.2) := by
  cases retries with
  | zero => exact .ask (.done _)
  | succ retries =>
    refine .ask ?_
    cases hreply : q.respond c reply.1 reply.2 with
    | ok page =>
      simp only [hreply]
      exact .done _
    | error e =>
      simp only [hreply, h e hreply]
      exact .done _

theorem attempts_of_retryable {c : ClientConfig} {q : Request} {retries : Nat}
    {reply : String × Reply} {e : RequestError} {es : List (Request × (String × Reply))}
    {r : Response} (he : q.respond c reply.1 reply.2 = .error e) (hretry : e.isRetryable)
    (h : (q.attempts c retries).Goes es r) :
    (q.attempts c (retries + 1)).Goes ((q, reply) :: es) r := by
  refine .ask ?_
  simp only [he, hretry, if_true]
  exact h

end CosmosClient.Course.Goes
