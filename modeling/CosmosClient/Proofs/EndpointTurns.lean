import Mathlib
import CosmosClient.Client.Basic
import CosmosClient.Proofs.Exchanges

/-!
# Endpoints in turn

Any number of calls are made through one client, and their attempts and the answers to these come in
any order. Every attempt takes the turn, whichever call makes it, and every call counts its own
attempts only.
-/

namespace CosmosClient

/-- The error is worth another attempt. -/
def Retryable {α : Type} (x : Except RequestError α) : Prop :=
  ∃ e, x = .error e ∧ e.isRetryable

/-- A call that has been made, as far as it has got. -/
structure Call where
  Result : Type
  request : Request
  decode : Json.Decoder Result
  /-- What is left to do. -/
  rest : Attempts (Except RequestError Result)
  /-- The address that has been asked and has not answered. -/
  pending : Option String := none
  /-- The answers so far, each with the address it came from. -/
  answered : List (String × Reply) := []

namespace Call

def start {α : Type} (c : ClientConfig) (q : Request) (decode : Json.Decoder α) : Call :=
  { Result := α, request := q, decode, rest := Program.attempts c (Client.fetch decode q).run }

/-- What is asked next, unless an answer is awaited or nothing is left to ask. -/
def due? (call : Call) : Option Request :=
  match call.pending, call.rest with
  | none, .ask q _ => some q
  | _, _ => none

/-- Goes on with the answer that is awaited. -/
def receive (call : Call) (reply : Reply) : Call :=
  match call.pending, call.rest with
  | some url, .ask _ next =>
    { call with
      rest := next (url, reply)
      pending := none
      answered := call.answered ++ [(url, reply)] }
  | _, _ => call

/-- The addresses that have been asked, in order. -/
def asked (call : Call) : List String :=
  call.answered.map (·.1) ++ call.pending.toList

def result? (call : Call) : Option (Except RequestError call.Result) :=
  match call.rest with
  | .done r => some r
  | _ => none

/-- What an answer means for the caller. -/
def outcome (c : ClientConfig) (call : Call) (answer : String × Reply) :
    Except RequestError call.Result :=
  Client.contentOf call.decode (call.request.respond c answer.1 answer.2)

end Call

/-- An attempt that has been sent. -/
structure Departure where
  /-- The place of the call. -/
  call : Nat
  /-- The place of the endpoint. -/
  host : Nat
  request : Request
  url : String

/-- The calls made through a client and its clones, which share the endpoints. -/
structure Traffic where
  hosts : Hosts
  calls : List Call := []
  /-- The attempts of all calls in the order in which they were sent. -/
  sent : List Departure := []

namespace Traffic

inductive Event where
  | call {α : Type} (q : Request) (decode : Json.Decoder α)
  /-- A call sends its next attempt. -/
  | send (i : Nat)
  /-- A call has an answer to its last attempt. -/
  | receive (i : Nat) (reply : Reply)

/-- What an event does; one that cannot happen does nothing. -/
def step (c : ClientConfig) (t : Traffic) : Event → Traffic
  | .call q decode => { t with calls := t.calls ++ [Call.start c q decode] }
  | .send i =>
    match t.calls[i]? with
    | none => t
    | some call =>
      match call.due? with
      | none => t
      | some q =>
        let (base, later) := t.hosts.next
        let url := base ++ q.path
        { hosts := later
          calls := t.calls.set i { call with pending := some url }
          sent := t.sent ++ [⟨i, t.hosts.turn, q, url⟩] }
  | .receive i reply =>
    match t.calls[i]? with
    | none => t
    | some call => { t with calls := t.calls.set i (call.receive reply) }

/-- A client after a history of events. -/
def run (c : ClientConfig) (reaches : Url → Bool) (replies : List Reply) (events : List Event) :
    Traffic :=
  events.foldl (step c) { hosts := Hosts.ofConfig c reaches replies }

def sentBy (t : Traffic) (i : Nat) : List Departure :=
  t.sent.filter fun d => d.call == i

end Traffic
end CosmosClient

namespace CosmosClient.Proofs
open Course
open Client (contentOf)

variable {c : ClientConfig} {α : Type}

lemma retryable_contentOf {decode : Json.Decoder α} {x : Response} :
    Retryable (contentOf decode x) ↔ Retryable x := by
  cases x with
  | error e => simp [Retryable, contentOf]
  | ok page =>
    unfold contentOf
    cases hdecode : Json.decodeText decode page.body <;>
      simp [Retryable, hdecode, RequestError.isRetryable]

/-- What an answer to an attempt leads to. -/
lemma attempts_eq_ask (c : ClientConfig) (q : Request) (left : Nat) :
    ∃ next, q.attempts c left = .ask q next ∧ ∀ answer : String × Reply,
      (Retryable (q.respond c answer.1 answer.2) ∧
        ∃ fewer, left = fewer + 1 ∧ next answer = q.attempts c fewer) ∨
      ((Retryable (q.respond c answer.1 answer.2) → left = 0) ∧
        next answer = .done (q.respond c answer.1 answer.2)) := by
  cases left with
  | zero => exact ⟨_, rfl, fun answer => .inr ⟨fun _ => rfl, rfl⟩⟩
  | succ left =>
    refine ⟨_, rfl, ?_⟩
    intro answer
    cases hanswer : q.respond c answer.1 answer.2 with
    | ok page =>
      right
      simp [Retryable, hanswer]
    | error e =>
      by_cases hretry : e.isRetryable
      · left
        simp [Retryable, hanswer, hretry]
      · right
        simp [Retryable, hanswer, hretry]

/-- How far a call can have got. -/
inductive Stands (c : ClientConfig) (call : Call) : Prop where
  | going {left : Nat}
      (hrest : call.rest = (call.request.attempts c left).bind fun x =>
        .done (contentOf call.decode x))
      (hleft : call.answered.length + left = c.queryRetries.toNat)
      (hanswered : ∀ answer ∈ call.answered, Retryable (call.outcome c answer))
  | ended {front : List (String × Reply)} {last : String × Reply}
      (hrest : call.rest = .done (call.outcome c last)) (hpending : call.pending = none)
      (hanswered : call.answered = front ++ [last])
      (hfront : ∀ answer ∈ front, Retryable (call.outcome c answer))
      (hlength : front.length ≤ c.queryRetries.toNat)
      (hlast : Retryable (call.outcome c last) → front.length = c.queryRetries.toNat)

lemma stands_start (q : Request) (decode : Json.Decoder α) : Stands c (Call.start c q decode) := by
  refine @Stands.going c _ c.queryRetries.toNat ?_ (Nat.zero_add _) (by simp [Call.start])
  show Program.attempts c (Client.fetch decode q).run = _
  rw [fetch_run]
  rfl

lemma stands_receive {call : Call} (h : Stands c call) (reply : Reply) :
    Stands c (call.receive reply) := by
  cases h with
  | ended hrest hpending hanswered hfront hlength hlast =>
    have hsame : call.receive reply = call := by
      unfold Call.receive
      rw [hpending, hrest]
    rw [hsame]
    exact .ended hrest hpending hanswered hfront hlength hlast
  | @going left hrest hleft hanswered =>
    cases hpending : call.pending with
    | none =>
      have hsame : call.receive reply = call := by
        unfold Call.receive
        rw [hpending]
      rw [hsame]
      exact .going hrest hleft hanswered
    | some url =>
      obtain ⟨next, hask, hnext⟩ := attempts_eq_ask c call.request left
      have hreceive : call.receive reply = { call with
          rest := (next (url, reply)).bind fun x => .done (contentOf call.decode x)
          pending := none
          answered := call.answered ++ [(url, reply)] } := by
        unfold Call.receive
        rw [hpending, hrest, hask]
        rfl
      rw [hreceive]
      rcases hnext (url, reply) with ⟨hretry, fewer, rfl, hmore⟩ | ⟨hlast, hdone⟩
      · have hall : ∀ answer ∈ call.answered ++ [(url, reply)], Retryable (call.outcome c answer) := by
          intro answer hmem
          rcases List.mem_append.1 hmem with hmem | hmem
          · exact hanswered answer hmem
          · obtain rfl := List.mem_singleton.1 hmem
            exact retryable_contentOf.2 hretry
        refine @Stands.going c _ fewer ?_ ?_ hall
        · rw [hmore]
        · rw [List.length_append, List.length_singleton]
          omega
      · refine @Stands.ended c _ call.answered (url, reply) ?_ rfl rfl hanswered (by omega) ?_
        · rw [hdone]
          rfl
        · intro hretry
          have hnone := hlast (retryable_contentOf.1 hretry)
          show call.answered.length = _
          omega

/-- A call that is due asks for what it was made for. -/
lemma due?_eq_some {call : Call} {q : Request} (h : Stands c call) (hdue : call.due? = some q) :
    q = call.request ∧ call.pending = none ∧ ∀ url, Stands c { call with pending := some url } := by
  unfold Call.due? at hdue
  cases h with
  | ended hrest =>
    rw [hrest] at hdue
    split at hdue <;> simp_all
  | @going left hrest hleft hanswered =>
    obtain ⟨next, hask, -⟩ := attempts_eq_ask c call.request left
    rw [hrest, hask] at hdue
    cases hpending : call.pending with
    | some url => simp [hpending] at hdue
    | none =>
      simp only [hpending, Course.bind, Option.some.injEq] at hdue
      exact ⟨hdue.symm, rfl, fun url => .going hrest hleft hanswered⟩

@[simp]
lemma receive_request (call : Call) (reply : Reply) : (call.receive reply).request = call.request := by
  unfold Call.receive
  split <;> rfl

@[simp]
lemma receive_asked (call : Call) (reply : Reply) : (call.receive reply).asked = call.asked := by
  unfold Call.receive
  split
  next hpending _ => simp [Call.asked, hpending]
  next => rfl

lemma asked_length_le {call : Call} (h : Stands c call) :
    call.asked.length ≤ c.queryRetries.toNat + 1 := by
  have hpending : call.pending.toList.length ≤ 1 := by
    cases call.pending <;> simp
  rw [Call.asked, List.length_append, List.length_map]
  cases h with
  | going hrest hleft => omega
  | ended hrest hnone hanswered hfront hlength =>
    rw [hanswered, hnone, List.length_append]
    simp only [List.length_singleton, Option.toList_none, List.length_nil]
    omega

/-- A call without a result waits for an answer or is due. -/
lemma due?_of_going {call : Call} (h : Stands c call) (hresult : call.result? = none)
    (hpending : call.pending = none) : call.due? = some call.request := by
  cases h with
  | ended hrest => simp [Call.result?, hrest] at hresult
  | @going left hrest =>
    obtain ⟨next, hask, -⟩ := attempts_eq_ask c call.request left
    unfold Call.due?
    rw [hpending, hrest, hask]
    rfl

/-- The result is what the last answer means, once it asks for no other attempt or none is left. -/
lemma result?_eq_some {call : Call} (h : Stands c call) {r : Except RequestError call.Result} :
    call.result? = some r ↔ ∃ front last, call.answered = front ++ [last] ∧
      call.outcome c last = r ∧ (¬Retryable r ∨ front.length = c.queryRetries.toNat) := by
  cases h with
  | @going left hrest hleft hanswered =>
    obtain ⟨next, hask, -⟩ := attempts_eq_ask c call.request left
    apply iff_of_false
    · unfold Call.result?
      rw [hrest, hask]
      exact nofun
    · rintro ⟨front, last, hlast, rfl, hfinal⟩
      have hmem : last ∈ call.answered := by
        rw [hlast]
        exact List.mem_append_right front (List.mem_singleton_self last)
      have hlength := congrArg List.length hlast
      rw [List.length_append, List.length_singleton] at hlength
      rcases hfinal with hfinal | hfinal
      · exact hfinal (hanswered last hmem)
      · omega
  | @ended front last hrest hpending hanswered hfront hlength hlast =>
    have hresult : call.result? = some (call.outcome c last) := by
      unfold Call.result?
      rw [hrest]
    rw [hresult, Option.some.injEq]
    constructor
    · rintro rfl
      exact ⟨front, last, hanswered, rfl, not_or_of_imp hlast⟩
    · rintro ⟨front', last', hanswered', rfl, -⟩
      obtain ⟨-, hsame⟩ := List.append_inj' (hanswered.symm.trans hanswered') rfl
      rw [(List.cons.inj hsame).1]

/-- An answer after which another attempt was made asked for it. -/
lemma retryable_of_more {call : Call} (h : Stands c call) {k : Nat} {answer : String × Reply}
    (hanswer : call.answered[k]? = some answer) (hmore : k + 1 < call.asked.length) :
    Retryable (call.outcome c answer) := by
  cases h with
  | going hrest hleft hanswered => exact hanswered answer (List.mem_of_getElem? hanswer)
  | @ended front last hrest hpending hanswered hfront =>
    rw [Call.asked, hpending, hanswered] at hmore
    simp only [Option.toList_none, List.append_nil, List.length_map, List.length_append,
      List.length_singleton] at hmore
    rw [hanswered, List.getElem?_append_left (by omega)] at hanswer
    exact hfront answer (List.mem_of_getElem? hanswer)

/-- After a result that asks for another attempt, all attempts have been made. -/
lemma exhausted {call : Call} (h : Stands c call) {r : Except RequestError call.Result}
    (hresult : call.result? = some r) (hretry : Retryable r) :
    call.asked = call.answered.map (·.1) ∧ call.answered.length = c.queryRetries.toNat + 1 ∧
      ∀ answer ∈ call.answered, Retryable (call.outcome c answer) := by
  cases h with
  | @going left hrest =>
    obtain ⟨next, hask, -⟩ := attempts_eq_ask c call.request left
    unfold Call.result? at hresult
    rw [hrest, hask] at hresult
    exact absurd hresult nofun
  | @ended front last hrest hpending hanswered hfront hlength hlast =>
    unfold Call.result? at hresult
    rw [hrest] at hresult
    obtain rfl := Option.some.inj hresult
    refine ⟨?_, ?_, ?_⟩
    · rw [Call.asked, hpending, Option.toList_none, List.append_nil]
    · rw [hanswered, List.length_append, hlast hretry, List.length_singleton]
    · intro answer hmem
      rw [hanswered] at hmem
      rcases List.mem_append.1 hmem with hmem | hmem
      · exact hfront answer hmem
      · obtain rfl := List.mem_singleton.1 hmem
        exact hretry

lemma succ_turn (k : Nat) {n : Nat} (hn : 0 < n) :
    (if k % n + 1 < n then k % n + 1 else 0) = (k + 1) % n := by
  have hlt := Nat.mod_lt k hn
  rw [Nat.add_mod_eq_ite]
  rcases Nat.lt_or_ge 1 n with hone | hone
  · rw [Nat.mod_eq_of_lt hone]
    split <;> split <;> omega
  · obtain rfl : n = 1 := by omega
    simp [Nat.mod_one]

/-- Any `n` attempts in a row reach all of the `n` endpoints. -/
lemma exists_turn (k : Nat) {j n : Nat} (hj : j < n) : ∃ i < n, (k + i) % n = j := by
  have hlt := Nat.mod_lt k (Nat.zero_lt_of_lt hj)
  refine ⟨(j + (n - k % n)) % n, Nat.mod_lt _ (Nat.zero_lt_of_lt hj), ?_⟩
  have hsum : k % n + (j + (n - k % n)) = j + n := by omega
  rw [Nat.add_mod_mod, Nat.add_mod, ← Nat.mod_add_mod, ← Nat.add_mod, hsum]
  rw [Nat.add_mod_right, Nat.mod_eq_of_lt hj]

/-! ### Histories -/

/-- What is known of a client after any history. -/
structure Fair (c : ClientConfig) (t : Traffic) : Prop where
  urls : t.hosts.urls = c.urls.map Hosts.trimSlashes
  turn : t.hosts.turn = t.sent.length % c.urls.length
  sent : ∀ k d, t.sent[k]? = some d → d.call < t.calls.length ∧ d.host = k % c.urls.length ∧
    ∃ base, c.urls[k % c.urls.length]? = some base ∧
      d.url = Hosts.trimSlashes base ++ d.request.path
  calls : ∀ i call, t.calls[i]? = some call → Stands c call ∧
    (t.sentBy i).map (fun d => (d.request, d.url)) = call.asked.map (call.request, ·)

lemma fair_start (c : ClientConfig) (reaches : Url → Bool) (replies : List Reply) :
    Fair c { hosts := Hosts.ofConfig c reaches replies } where
  urls := rfl
  turn := (Nat.zero_mod _).symm
  sent := by simp
  calls := by simp

lemma sentBy_of_length_le {t : Traffic} (h : Fair c t) {i : Nat} (hi : t.calls.length ≤ i) :
    t.sentBy i = [] := by
  rw [Traffic.sentBy, List.filter_eq_nil_iff]
  intro d hd
  obtain ⟨k, hk⟩ := List.mem_iff_getElem?.1 hd
  have hlt := (h.sent k d hk).1
  simp only [beq_iff_eq]
  omega

lemma fair_call {t : Traffic} (h : Fair c t) (q : Request) (decode : Json.Decoder α) :
    Fair c { t with calls := t.calls ++ [Call.start c q decode] } where
  urls := h.urls
  turn := h.turn
  sent := by
    intro k d hd
    obtain ⟨hcall, hrest⟩ := h.sent k d hd
    refine ⟨?_, hrest⟩
    rw [List.length_append]
    omega
  calls := by
    intro i call hcall
    rcases Nat.lt_or_ge i t.calls.length with hi | hi
    · rw [List.getElem?_append_left hi] at hcall
      exact h.calls i call hcall
    · rw [List.getElem?_append_right hi, List.getElem?_singleton] at hcall
      obtain ⟨-, rfl⟩ : i - t.calls.length = 0 ∧ Call.start c q decode = call := by
        simpa using hcall
      refine ⟨stands_start q decode, ?_⟩
      have hnone : Traffic.sentBy { t with calls := t.calls ++ [Call.start c q decode] } i = [] :=
        sentBy_of_length_le h hi
      rw [hnone]
      rfl

lemma getElem?_set_cases {calls : List Call} {i j : Nat} {call other : Call}
    (h : (calls.set i call)[j]? = some other) :
    (i = j ∧ call = other) ∨ (i ≠ j ∧ calls[j]? = some other) := by
  rw [List.getElem?_set] at h
  split at h
  next hij =>
    split at h
    · exact .inl ⟨hij, Option.some.inj h⟩
    · simp at h
  next hij => exact .inr ⟨hij, h⟩

lemma fair_receive {t : Traffic} (h : Fair c t) {i : Nat} {call : Call}
    (hcall : t.calls[i]? = some call) (reply : Reply) :
    Fair c { t with calls := t.calls.set i (call.receive reply) } where
  urls := h.urls
  turn := h.turn
  sent := by simpa using h.sent
  calls := by
    intro j other hother
    rcases getElem?_set_cases hother with ⟨rfl, rfl⟩ | ⟨-, hother⟩
    · obtain ⟨hstands, hsent⟩ := h.calls i call hcall
      refine ⟨stands_receive hstands reply, ?_⟩
      rw [receive_asked, receive_request]
      exact hsent
    · exact h.calls j other hother

/-- The turn passes on with every attempt. -/
lemma fair_send {t : Traffic} (h : Fair c t) {i : Nat} {call : Call} {q : Request}
    (hcall : t.calls[i]? = some call) (hdue : call.due? = some q) :
    Fair c
      { hosts := t.hosts.next.2
        calls := t.calls.set i { call with pending := some (t.hosts.next.1 ++ q.path) }
        sent := t.sent ++ [⟨i, t.hosts.turn, q, t.hosts.next.1 ++ q.path⟩] } := by
  obtain ⟨hstands, hsent⟩ := h.calls i call hcall
  obtain ⟨rfl, hpending, hgoing⟩ := due?_eq_some hstands hdue
  have hn : 0 < c.urls.length := Nat.succ_pos _
  have hlength : t.hosts.urls.length = c.urls.length := by
    rw [h.urls, List.length_map]
  have hturn : t.hosts.turn < c.urls.length := by
    rw [h.turn]
    exact Nat.mod_lt _ hn
  constructor
  case urls => exact h.urls
  case turn =>
    show (if t.hosts.turn + 1 < t.hosts.urls.length then t.hosts.turn + 1 else 0) = _
    rw [hlength, h.turn, succ_turn _ hn, List.length_append]
    rfl
  case sent =>
    intro k d hd
    rw [List.length_set]
    rcases Nat.lt_or_ge k t.sent.length with hk | hk
    · rw [List.getElem?_append_left hk] at hd
      exact h.sent k d hd
    · rw [List.getElem?_append_right hk, List.getElem?_singleton] at hd
      obtain ⟨hlast, rfl⟩ : k - t.sent.length = 0 ∧
          (⟨i, t.hosts.turn, call.request, t.hosts.next.1 ++ call.request.path⟩ : Departure) = d := by
        simpa using hd
      obtain rfl : k = t.sent.length := by omega
      refine ⟨(List.getElem?_eq_some_iff.1 hcall).1, h.turn, ?_⟩
      rw [← h.turn]
      refine ⟨c.urls[t.hosts.turn], List.getElem?_eq_getElem hturn, ?_⟩
      simp [Hosts.next, h.urls, List.getD_eq_getElem?_getD, hturn]
  case calls =>
    intro j other hother
    rcases getElem?_set_cases hother with ⟨rfl, rfl⟩ | ⟨hij, hother⟩
    · refine ⟨hgoing _, ?_⟩
      simp only [Traffic.sentBy, Call.asked, hpending] at hsent ⊢
      rw [List.filter_append, List.map_append, hsent]
      simp
    · obtain ⟨hother, hsame⟩ := h.calls j other hother
      refine ⟨hother, ?_⟩
      rw [← hsame]
      simp [Traffic.sentBy, List.filter_append, hij]

lemma fair_step {t : Traffic} (h : Fair c t) (e : Traffic.Event) : Fair c (t.step c e) := by
  cases e with
  | call q decode => exact fair_call h q decode
  | send i =>
    cases hcall : t.calls[i]? with
    | none => simpa [Traffic.step, hcall] using h
    | some call =>
      cases hdue : call.due? with
      | none => simpa [Traffic.step, hcall, hdue] using h
      | some q => simpa [Traffic.step, hcall, hdue] using fair_send h hcall hdue
  | receive i reply =>
    cases hcall : t.calls[i]? with
    | none => simpa [Traffic.step, hcall] using h
    | some call => simpa [Traffic.step, hcall] using fair_receive h hcall reply

lemma fair_run (c : ClientConfig) (reaches : Url → Bool) (replies : List Reply)
    (events : List Traffic.Event) : Fair c (Traffic.run c reaches replies events) := by
  have hrun (t : Traffic) (h : Fair c t) : Fair c (events.foldl (Traffic.step c) t) := by
    induction events generalizing t with
    | nil => exact h
    | cons e events ih => exact ih _ (fair_step h e)
  exact hrun _ (fair_start c reaches replies)

lemma attempt_turn (h : Hosts) (q : Request) :
    (h.attempt q).1.1 = h.next.1 ++ q.path ∧ (h.attempt q).2.turn = h.next.2.turn ∧
      (h.attempt q).2.urls = h.urls := by
  unfold Hosts.attempt
  simp only
  split
  · split <;> exact ⟨rfl, rfl, rfl⟩
  · exact ⟨rfl, rfl, rfl⟩

lemma next_congr {h h' : Hosts} (hturn : h.turn = h'.turn) (hurls : h.urls = h'.urls) :
    h.next.1 = h'.next.1 ∧ h.next.2.turn = h'.next.2.turn := by
  simp [Hosts.next, Hosts.advance, hturn, hurls]

/-- The only call of a client sends its next attempt and has the answer at once. -/
lemma step_answered {h : Hosts} {t : Traffic} {call : Call}
    {next : String × Reply → Attempts (Except RequestError call.Result)} (hcalls : t.calls = [call])
    (hpending : call.pending = none) (hrest : call.rest = .ask call.request next)
    (hturn : t.hosts.turn = h.turn) (hurls : t.hosts.urls = h.urls) :
    let answer := (h.attempt call.request).1
    [Traffic.Event.send 0, .receive 0 answer.2].foldl (Traffic.step c) t =
      { hosts := t.hosts.next.2
        calls := [{ call with rest := next answer, answered := call.answered ++ [answer] }]
        sent := t.sent ++ [⟨0, t.hosts.turn, call.request, answer.1⟩] } := by
  intro answer
  have haddress : t.hosts.next.1 ++ call.request.path = answer.1 := by
    rw [(next_congr hturn hurls).1]
    exact (attempt_turn h call.request).1.symm
  have hdue : call.due? = some call.request := by
    unfold Call.due?
    rw [hpending, hrest]
  have hreceive : Call.receive { call with pending := some answer.1 } answer.2 =
      { call with rest := next answer, answered := call.answered ++ [answer] } := by
    unfold Call.receive
    simp only [hrest, hpending]
  rw [← hreceive, ← haddress]
  simp [Traffic.step, hcalls, hdue]

/-- The only call of a client is sent and answered as its attempts run. -/
lemma exists_history {left : Nat} {h : Hosts} {t : Traffic} {call : Call} (hcalls : t.calls = [call])
    (hpending : call.pending = none)
    (hrest : call.rest = (call.request.attempts c left).bind fun x =>
      .done (contentOf call.decode x))
    (hturn : t.hosts.turn = h.turn) (hurls : t.hosts.urls = h.urls) :
    ∃ (events : List Traffic.Event) (answered : List (String × Reply)),
      (events.foldl (Traffic.step c) t).calls =
        [{ call with rest := .done (h.run call.rest).1, answered }] ∧
      (events.foldl (Traffic.step c) t).hosts.turn = (h.run call.rest).2.turn := by
  induction left using Nat.strong_induction_on generalizing h t call with
  | _ left ih =>
    obtain ⟨next, hask, hnext⟩ := attempts_eq_ask c call.request left
    rw [hask] at hrest
    have hanswered := step_answered (c := c) hcalls hpending hrest hturn hurls
    have hrun : h.run call.rest = (h.attempt call.request).2.run
        ((next (h.attempt call.request).1).bind fun x => .done (contentOf call.decode x)) := by
      rw [hrest]
      rfl
    obtain ⟨-, hlater, hsame⟩ := attempt_turn h call.request
    have hpassed : t.hosts.next.2.turn = (h.attempt call.request).2.turn :=
      (next_congr hturn hurls).2.trans hlater.symm
    rw [hrun]
    generalize (h.attempt call.request).1 = answer at *
    rcases hnext answer with ⟨-, fewer, rfl, hmore⟩ | ⟨-, hdone⟩
    · let after : Call := { call with
          rest := (next answer).bind fun x => .done (contentOf call.decode x)
          answered := call.answered ++ [answer] }
      have hafter : after.rest = (after.request.attempts c fewer).bind fun x =>
          .done (contentOf after.decode x) := by
        show (next answer).bind _ = _
        rw [hmore]
      obtain ⟨events, answered, hcalls', hturn'⟩ := ih fewer (Nat.lt_succ_self fewer)
        (h := (h.attempt call.request).2) (t := ⟨t.hosts.next.2, [after], _⟩) rfl hpending hafter
        hpassed (hurls.trans hsame.symm)
      refine ⟨[.send 0, .receive 0 answer.2] ++ events, answered, ?_⟩
      rw [List.foldl_append, hanswered]
      exact ⟨hcalls', hturn'⟩
    · refine ⟨[.send 0, .receive 0 answer.2], call.answered ++ [answer], ?_⟩
      rw [hanswered]
      simp only [hdone, Course.bind]
      exact ⟨rfl, hpassed⟩

/-- Whatever a call comes to against the endpoints, it comes to in a history. -/
theorem run_is_history (c : ClientConfig) (reaches : Url → Bool) (replies : List Reply) (q : Request)
    (decode : Json.Decoder α) :
    let ran := (Hosts.ofConfig c reaches replies).run (Call.start c q decode).rest
    ∃ (events : List Traffic.Event) (answered : List (String × Reply)),
      (Traffic.run c reaches replies events).calls =
        [{ Call.start c q decode with rest := .done ran.1, answered }] ∧
      (Traffic.run c reaches replies events).hosts.turn = ran.2.turn := by
  intro ran
  have hrest : (Call.start c q decode).rest = (q.attempts c c.queryRetries.toNat).bind fun x =>
      .done (contentOf decode x) := by
    show Program.attempts c (Client.fetch decode q).run = _
    rw [fetch_run]
    rfl
  obtain ⟨events, answered, hcalls, hturn⟩ := exists_history (c := c)
    (h := Hosts.ofConfig c reaches replies)
    (t := { hosts := Hosts.ofConfig c reaches replies, calls := [Call.start c q decode] }) rfl rfl
    hrest rfl rfl
  exact ⟨.call q decode :: events, answered, hcalls, hturn⟩

/-- A call that fails without others in between has failed at every endpoint that its attempts suffice
for. -/
lemma failed_everywhere {t : Traffic} (h : Fair c t) {i : Nat} {call : Call}
    (hcall : t.calls[i]? = some call) {before own after : List Departure}
    (hsent : t.sent = before ++ own ++ after) (hown : ∀ d ∈ own, d.call = i)
    (hothers : ∀ d ∈ before ++ after, d.call ≠ i) (hn : c.urls.length ≤ c.queryRetries.toNat + 1)
    {r : Except RequestError call.Result} (hresult : call.result? = some r) (hretry : Retryable r)
    {j : Nat} {base : String} (hbase : c.urls[j]? = some base) :
    ∃ (k : Nat) (d : Departure) (reply : Reply), own[k]? = some d ∧ d.host = j ∧
      call.answered[k]? = some (Hosts.trimSlashes base ++ call.request.path, reply) ∧
      Retryable (call.outcome c (Hosts.trimSlashes base ++ call.request.path, reply)) := by
  obtain ⟨hstands, hasked⟩ := h.calls i call hcall
  obtain ⟨hanswered, hlength, hall⟩ := exhausted hstands hresult hretry
  have hsentBy : t.sentBy i = own := by
    have hbefore : before.filter (fun d => d.call == i) = [] := by
      simpa [List.filter_eq_nil_iff] using fun d hd => hothers d (List.mem_append_left after hd)
    have hafter : after.filter (fun d => d.call == i) = [] := by
      simpa [List.filter_eq_nil_iff] using fun d hd => hothers d (List.mem_append_right before hd)
    have hmine : own.filter (fun d => d.call == i) = own := by
      simpa [List.filter_eq_self] using hown
    rw [Traffic.sentBy, hsent, List.filter_append, List.filter_append, hbefore, hmine, hafter,
      List.nil_append, List.append_nil]
  rw [hsentBy, hanswered] at hasked
  have hmade : own.length = c.queryRetries.toNat + 1 := by
    rw [← hlength]
    simpa using congrArg List.length hasked
  obtain ⟨hj, -⟩ := List.getElem?_eq_some_iff.1 hbase
  obtain ⟨k, hk, hturn⟩ := exists_turn before.length hj
  have hkown : k < own.length := by omega
  have hkanswered : k < call.answered.length := by omega
  have hd : t.sent[before.length + k]? = some own[k] := by
    rw [hsent, List.append_assoc, List.getElem?_append_right (by omega), Nat.add_sub_cancel_left,
      List.getElem?_append_left hkown, List.getElem?_eq_getElem hkown]
  obtain ⟨-, hhost, base', hbase', hurl⟩ := h.sent _ _ hd
  rw [hturn] at hhost hbase'
  obtain rfl := Option.some.inj (hbase.symm.trans hbase')
  have hpair : (own[k].request, own[k].url) = (call.request, call.answered[k].1) := by
    have hsame := congrArg (·[k]?) hasked
    simpa [hkown, hkanswered] using hsame
  obtain ⟨hrequest, hanswer⟩ := Prod.mk.inj hpair
  have haddress : Hosts.trimSlashes base ++ call.request.path = call.answered[k].1 := by
    rw [← hanswer, hurl, hrequest]
  rw [haddress]
  exact ⟨k, own[k], call.answered[k].2, List.getElem?_eq_getElem hkown, hhost,
    List.getElem?_eq_getElem hkanswered, hall _ (List.getElem_mem hkanswered)⟩

/-- The attempts of all calls go round the endpoints. Every call goes on until an answer asks for no
other attempt or all of its attempts are made, and results in the last answer. If no other call comes
between its attempts, and there are enough of them, it fails only when all endpoints fail. -/
theorem requests_take_turns (c : ClientConfig) (reaches : Url → Bool) (replies : List Reply)
    (events : List Traffic.Event) :
    let t := Traffic.run c reaches replies events
    let n := c.urls.length
    let retries := c.queryRetries.toNat
    t.hosts.turn < n ∧
    (∀ k d, t.sent[k]? = some d → d.host = k % n ∧
      ∃ base, c.urls[k % n]? = some base ∧ d.url = Hosts.trimSlashes base ++ d.request.path) ∧
    ∀ i call, t.calls[i]? = some call →
      (t.sentBy i).map (fun d => (d.request, d.url)) = call.asked.map (call.request, ·) ∧
      call.asked.length ≤ retries + 1 ∧
      (∀ k answer, call.answered[k]? = some answer → k + 1 < call.asked.length →
        Retryable (call.outcome c answer)) ∧
      (∀ r, call.result? = some r ↔ ∃ front last, call.answered = front ++ [last] ∧
        call.outcome c last = r ∧ (¬Retryable r ∨ front.length = retries)) ∧
      (call.result? = none → call.pending = none → call.due? = some call.request) ∧
      ∀ before own after r, t.sent = before ++ own ++ after → (∀ d ∈ own, d.call = i) →
        (∀ d ∈ before ++ after, d.call ≠ i) → n ≤ retries + 1 → call.result? = some r →
        Retryable r → ∀ (j : Nat) (base : String), c.urls[j]? = some base →
        ∃ (k : Nat) (d : Departure) (reply : Reply), own[k]? = some d ∧ d.host = j ∧
          call.answered[k]? = some (Hosts.trimSlashes base ++ call.request.path, reply) ∧
          Retryable (call.outcome c (Hosts.trimSlashes base ++ call.request.path, reply)) := by
  intro t n retries
  have h : Fair c t := fair_run c reaches replies events
  refine ⟨?turn, ?sent, ?calls⟩
  case turn =>
    rw [h.turn]
    exact Nat.mod_lt _ (Nat.succ_pos _)
  case sent =>
    intro k d hd
    exact (h.sent k d hd).2
  case calls =>
    intro i call hcall
    obtain ⟨hstands, hasked⟩ := h.calls i call hcall
    refine ⟨hasked, asked_length_le hstands, ?_, fun r => result?_eq_some hstands,
      due?_of_going hstands, ?_⟩
    · intro k answer hanswer hmore
      exact retryable_of_more hstands hanswer hmore
    · intro before own after r hsent hown hothers hn hresult hretry j base hbase
      exact failed_everywhere h hcall hsent hown hothers hn hresult hretry hbase

/-- A client with two endpoints and one further attempt. -/
def pairedConfig : ClientConfig where
  chainId := "chain"
  gasPrices := ⟨[]⟩
  hrp := .cosmos
  url := "http://a/"
  fallbackUrls := ["http://b"]
  setQueryRetries := some 1

/-- The second call fails at both endpoints between an attempt of the first call and its answer. -/
def crossedCalls : List Traffic.Event :=
  [.call { path := "/x" } Json.text, .call { path := "/y" } Json.text, .send 0, .send 1,
    .receive 1 .dropped, .send 1, .receive 1 .hung, .receive 0 .hung, .send 0]

theorem crossedCalls_take_turns :
    let t := Traffic.run pairedConfig (fun _ => true) [] crossedCalls
    t.sent.map (·.url) = ["http://a/x", "http://b/y", "http://a/y", "http://b/x"] ∧
    ∃ call, t.calls[1]? = some call ∧ ∃ r, call.result? = some r ∧ Retryable r ∧
      ∀ (j : Nat) (base : String), pairedConfig.urls[j]? = some base → ∃ reply,
        (Hosts.trimSlashes base ++ call.request.path, reply) ∈ call.answered := by
  intro t
  have hresult : ∃ call, t.calls[1]? = some call ∧
      call.result? = some (.error (.timeout "http://a/y" 5)) := ⟨_, rfl, rfl⟩
  obtain ⟨call, hcall, hresult⟩ := hresult
  have hretry : Retryable (.error (.timeout "http://a/y" 5) : Except RequestError call.Result) :=
    ⟨_, rfl, rfl⟩
  refine ⟨rfl, call, hcall, _, hresult, hretry, ?_⟩
  intro j base hbase
  obtain ⟨k, -, reply, -, -, hanswer, -⟩ :=
    ((requests_take_turns pairedConfig (fun _ => true) [] crossedCalls).2.2 1 call hcall).2.2.2.2.2
      (t.sent.take 1) ((t.sent.drop 1).take 2) (t.sent.drop 3) _ rfl (by decide +kernel)
      (by decide +kernel) (by decide) hresult hretry j base hbase
  exact ⟨reply, List.mem_of_getElem? hanswer⟩

end CosmosClient.Proofs
