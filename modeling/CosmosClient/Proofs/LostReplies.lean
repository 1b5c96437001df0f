import Mathlib
import CosmosClient.Proofs.BroadcastSchedule

/-!
# Lost replies of a broadcast

An attempt to hand over a transaction may end without the word of the node, although the node has the
transaction. The attempt is then repeated with the same bytes; but when the answer to those names
another sequence, perhaps because of the first attempt, the same messages are signed once more at that
sequence. This is the only way in which a lost reply is followed by another sequence.
-/

namespace CosmosClient

/-- Whether an attempt ends without the word of the node. -/
def Reply.isLost : Reply → Bool
  | .dropped | .hung => true
  | .answer status _ => status == 502 || status == 503 || status == 504

namespace Wallet

/-- An attempt to hand over a transaction that is signed at a sequence. -/
structure Post where
  sequence : UInt64
  request : Request
  url : String
  reply : Reply

def Post.exchange (p : Post) : Request × (String × Reply) := (p.request, (p.url, p.reply))

/-- What the reply to an attempt means for the broadcast of a draft. -/
def Post.verdict (w : Wallet) (d : TxDraft) (p : Post) : Verdict :=
  Wallet.verdict d (p.request.respond w.config p.url p.reply)

/-- After a lost reply no transaction with another sequence is handed over. -/
def Careful (posts : List Post) : Prop :=
  posts.Pairwise fun p q => p.reply.isLost → q.sequence = p.sequence

/-- The first answer that names a sequence comes after a lost reply and names another sequence than
the one that was signed. -/
def MisledByLoss (w : Wallet) (d : TxDraft) (posts : List Post) : Prop :=
  ∃ (front : List Post) (p : Post) (back : List Post) (x : UInt64), posts = front ++ p :: back ∧
    p.verdict w d = .mismatch x ∧ x ≠ p.sequence ∧
    (∀ q ∈ front, ∀ y, q.verdict w d ≠ .mismatch y) ∧ ∃ q ∈ front, q.reply.isLost

end Wallet
end CosmosClient

namespace CosmosClient.Proofs
open Course (Goes)
open Wallet

variable {w : Wallet} {d : TxDraft} {number sequence : UInt64}

/-- The attempt of a submission that ends with a reply. -/
def postOf (s : Submission) (reply : String × Reply) : Post :=
  ⟨s.sequence, s.request, reply.1, reply.2⟩

/-- The attempts made for submissions: for each one those that failed in a way that may pass, and then
the one that was answered. -/
inductive Posted (w : Wallet) : List (Submission × Response) → List Post → Prop where
  | nil : Posted w [] []
  | cons {s : Submission} {response : Response} {subs : List (Submission × Response)}
      {front : List (String × Reply)} {last : String × Reply} {posts : List Post}
      (hlast : s.request.respond w.config last.1 last.2 = response)
      (hfront : ∀ reply ∈ front, ∃ e, s.request.respond w.config reply.1 reply.2 = .error e)
      (hrest : Posted w subs posts) :
      Posted w ((s, response) :: subs) (front.map (postOf s) ++ postOf s last :: posts)

lemma handed_repeated {q : Request} (replies : List (String × Reply)) :
    handed (replies.map fun reply => (q, reply)) =
      if hands q then replies.map fun reply => (q, reply) else [] := by
  by_cases hq : hands q
  · rw [if_pos hq]
    induction replies with
    | nil => rfl
    | cons reply replies ih => rw [List.map_cons, handed_cons_of_hands hq, ih]
  · rw [if_neg hq]
    induction replies with
    | nil => rfl
    | cons reply replies ih => rw [List.map_cons, handed_cons_of_not_hands hq, ih]

/-- The attempts of a whole program are those of its requests. -/
lemma posted_of_parts {parts : List ((Request × Response) × List (Request × (String × Reply)))}
    (hparts : ∀ part ∈ parts, (part.1.1.perform w.config).Goes part.2 part.1.2)
    {subs : List (Submission × Response)} (hsubs : handed (parts.map (·.1)) = exchangesOf subs) :
    ∃ posts, Posted w subs posts ∧ handed (parts.flatMap (·.2)) = posts.map Post.exchange := by
  induction parts generalizing subs with
  | nil =>
    obtain rfl : subs = [] := List.map_eq_nil_iff.1 hsubs.symm
    exact ⟨[], .nil, rfl⟩
  | cons part parts ih =>
    obtain ⟨hpart, hrest⟩ := List.forall_mem_cons.1 hparts
    obtain ⟨front, last, hes, -, hlast, hfront⟩ := goes_attempts hpart
    rw [List.flatMap_cons, handed_append, hes, handed_repeated]
    rw [List.map_cons] at hsubs
    by_cases hq : hands part.1.1
    · rw [handed_cons_of_hands hq] at hsubs
      obtain ⟨s, subs, rfl, hs, hmore⟩ := List.map_eq_cons_iff.1 hsubs.symm
      obtain ⟨posts, hposted, hposts⟩ := ih hrest hmore.symm
      have hrequest : s.1.request = part.1.1 := congrArg Prod.fst hs
      have hresponse : s.2 = part.1.2 := congrArg Prod.snd hs
      rw [← hrequest] at hlast hfront ⊢
      refine ⟨front.map (postOf s.1) ++ postOf s.1 last :: posts,
        .cons (hlast.trans hresponse.symm)
          (fun reply hreply => (hfront reply hreply).imp fun _ h => h.1) hposted, ?_⟩
      rw [if_pos (hrequest ▸ hq), hposts]
      simp [Post.exchange, postOf, Function.comp_def]
    · rw [handed_cons_of_not_hands hq] at hsubs
      rw [if_neg hq, List.nil_append]
      exact ih hrest hsubs

variable {subs : List (Submission × Response)} {posts : List Post} {x : UInt64} {fees : List Fee}

lemma posted_append {more : List (Submission × Response)} (h : Posted w (subs ++ more) posts) :
    ∃ front back, posts = front ++ back ∧ Posted w subs front ∧ Posted w more back := by
  induction subs generalizing posts with
  | nil => exact ⟨[], posts, rfl, .nil, h⟩
  | cons s subs ih =>
    cases h with
    | @cons s response _ front last posts hlast hfront hrest =>
      obtain ⟨first, back, rfl, hfirst, hback⟩ := ih hrest
      exact ⟨front.map (postOf s) ++ postOf s last :: first, back, by simp,
        .cons hlast hfront hfirst, hback⟩

lemma submission_of_post (h : Posted w subs posts) {p : Post} (hp : p ∈ posts) :
    ∃ s ∈ subs, p.sequence = s.1.sequence ∧ p.request = s.1.request := by
  induction h with
  | nil => simp at hp
  | @cons s response subs front last posts hlast hfront hrest ih =>
    rcases List.mem_append.1 hp with hp | hp
    · obtain ⟨reply, -, rfl⟩ := List.mem_map.1 hp
      exact ⟨(s, response), by simp, rfl, rfl⟩
    · rcases List.mem_cons.1 hp with rfl | hp
      · exact ⟨(s, response), by simp, rfl, rfl⟩
      · obtain ⟨t, ht, hsame⟩ := ih hp
        exact ⟨t, by simp [ht], hsame⟩

/-- An attempt that is followed by another one leads to no other sequence. -/
lemma verdict_of_error {p : Post} {e : RequestError}
    (h : p.request.respond w.config p.url p.reply = .error e) : p.verdict w d = .final := by
  rw [Post.verdict, h]
  rfl

lemma verdict_of_lost {p : Post} (h : p.reply.isLost) : p.verdict w d = .final := by
  obtain ⟨sequence, request, url, reply⟩ := p
  cases reply with
  | dropped => exact verdict_of_error rfl
  | hung => exact verdict_of_error rfl
  | answer status body =>
    have hstatus : ¬(200 ≤ status ∧ status < 300) := by
      simp only [Reply.isLost, Bool.or_eq_true, beq_iff_eq] at h
      omega
    exact verdict_of_error (respond_of_failure hstatus)

lemma mismatch_of_post (h : Posted w subs posts) {p : Post} (hp : p ∈ posts)
    (hverdict : p.verdict w d = .mismatch x) : ∃ s ∈ subs, verdict d s.2 = .mismatch x := by
  induction h with
  | nil => simp at hp
  | @cons s response subs front last posts hlast hfront hrest ih =>
    rcases List.mem_append.1 hp with hp | hp
    · obtain ⟨reply, hreply, rfl⟩ := List.mem_map.1 hp
      obtain ⟨e, he⟩ := hfront reply hreply
      rw [verdict_of_error (p := postOf s reply) he] at hverdict
      exact absurd hverdict (by simp)
    · rcases List.mem_cons.1 hp with rfl | hp
      · rw [Post.verdict, postOf, hlast] at hverdict
        exact ⟨(s, response), by simp, hverdict⟩
      · obtain ⟨t, ht, hsame⟩ := ih hp
        exact ⟨t, by simp [ht], hsame⟩

lemma submission?_eq {fee : Fee} {s : Submission}
    (h : w.submission? d number sequence fee = some s) : s.fee = fee ∧ s.sequence = sequence := by
  unfold Wallet.submission? at h
  split at h
  · exact absurd h (by simp)
  · obtain rfl := Option.some.inj h
    exact ⟨rfl, rfl⟩

lemma submission_of_pass {y : Option UInt64} (h : Pass w d number sequence fees subs y) :
    ∀ s ∈ subs, w.submission? d number sequence s.1.fee = some s.1 ∧ s.1.sequence = sequence := by
  have hone {fee : Fee} {s : Submission} (hs : w.submission? d number sequence fee = some s) :
      w.submission? d number sequence s.fee = some s ∧ s.sequence = sequence := by
    obtain ⟨rfl, hsequence⟩ := submission?_eq hs
    exact ⟨hs, hsequence⟩
  induction h with
  | unsigned hs => simp
  | final hs hv => simpa using hone hs
  | mismatch hs hv => simpa using hone hs
  | highest hs hv => simpa using hone hs
  | higher hs hv hrest ih => exact List.forall_mem_cons.2 ⟨hone hs, ih⟩

lemma submission_of_passes (h : Passes w d number sequence fees subs) :
    ∀ s ∈ subs, w.submission? d number s.1.sequence s.1.fee = some s.1 := by
  intro s hs
  cases h with
  | once hpass =>
    obtain ⟨hsigned, hsequence⟩ := submission_of_pass hpass s hs
    rw [hsequence, hsigned]
  | twice hfirst hsecond =>
    rcases List.mem_append.1 hs with hs | hs
    · obtain ⟨hsigned, hsequence⟩ := submission_of_pass hfirst s hs
      rw [hsequence, hsigned]
    · obtain ⟨hsigned, hsequence⟩ := submission_of_pass hsecond s hs
      rw [hsequence, hsigned]

lemma no_mismatch_of_pass (h : Pass w d number sequence fees subs none) :
    ∀ s ∈ subs, ∀ y, verdict d s.2 ≠ .mismatch y := by
  generalize hnone : (none : Option UInt64) = y at h
  induction h with
  | unsigned hs => simp
  | final hs hv => simp [hv]
  | mismatch hs hv => exact absurd hnone (by simp)
  | highest hs hv => simp [hv]
  | higher hs hv hrest ih => exact List.forall_mem_cons.2 ⟨by simp [hv], ih hnone⟩

lemma mismatch_of_pass (h : Pass w d number sequence fees subs (some x)) :
    ∃ front s, subs = front ++ [s] ∧ verdict d s.2 = .mismatch x ∧
      ∀ t ∈ front, ∀ y, verdict d t.2 ≠ .mismatch y := by
  generalize hsome : some x = y at h
  induction h with
  | unsigned hs => exact absurd hsome (by simp)
  | final hs hv => exact absurd hsome (by simp)
  | mismatch hs hv =>
    obtain rfl := Option.some.inj hsome
    exact ⟨[], _, rfl, hv, by simp⟩
  | highest hs hv => exact absurd hsome (by simp)
  | @higher _ _ _ s response _ _ hs hv hrest ih =>
    obtain ⟨front, t, rfl, ht, hfront⟩ := ih hsome
    exact ⟨(s, response) :: front, t, rfl, ht, List.forall_mem_cons.2 ⟨by simp [hv], hfront⟩⟩

/-- A draft that could be signed once can be signed again, so that another pass hands something
over. -/
lemma pass_ne_nil {y z : Option UInt64} {second : List (Submission × Response)}
    (hfirst : Pass w d number sequence fees subs y) (hsubs : subs ≠ [])
    (hsecond : Pass w d number x fees second z) : second ≠ [] := by
  rintro rfl
  obtain ⟨s, hs⟩ := List.exists_mem_of_ne_nil _ hsubs
  obtain ⟨hsigned, -⟩ := submission_of_pass hfirst s hs
  have hsome := submission?_isSome w d number sequence s.1.fee
  cases hsecond with
  | @unsigned fee rest hnone =>
    rw [← submission?_isSome w d number x fee, hnone, hsigned] at hsome
    exact absurd hsome (by simp)

/-! ### Lost replies -/

lemma careful_of_same (h : ∀ p ∈ posts, p.sequence = sequence) : Careful posts :=
  List.pairwise_of_forall_mem_list fun p hp q hq _ => (h q hq).trans (h p hp).symm

/-- The first place of a kind is one place only. -/
lemma first_unique {α : Type} {P : α → Prop} {front front' back back' : List α} {a a' : α}
    (h : front ++ a :: back = front' ++ a' :: back') (ha : P a) (ha' : P a')
    (hfront : ∀ b ∈ front, ¬P b) (hfront' : ∀ b ∈ front', ¬P b) : front = front' ∧ a = a' := by
  induction front generalizing front' with
  | nil =>
    cases front' with
    | nil => exact ⟨rfl, (List.cons.inj h).1⟩
    | cons b front' =>
      exact absurd ((List.cons.inj h).1 ▸ ha) (hfront' b (by simp))
  | cons b front ih =>
    cases front' with
    | nil => exact absurd ((List.cons.inj h).1 ▸ ha') (hfront b (by simp))
    | cons b' front' =>
      obtain ⟨rfl, hrest⟩ := List.cons.inj h
      obtain ⟨rfl, rfl⟩ := ih hrest (fun c hc => hfront c (by simp [hc]))
        fun c hc => hfront' c (by simp [hc])
      exact ⟨rfl, rfl⟩

/-- The attempts of a pass that ends with another sequence. -/
lemma posts_of_mismatch (hpass : Pass w d number sequence fees subs (some x))
    (hposted : Posted w subs posts) :
    ∃ (front : List Post) (p : Post), posts = front ++ [p] ∧ p.verdict w d = .mismatch x ∧
      ∀ q ∈ front, ∀ y, q.verdict w d ≠ .mismatch y := by
  obtain ⟨init, s, rfl, hs, hinit⟩ := mismatch_of_pass hpass
  obtain ⟨before, after, rfl, hbefore, hafter⟩ := posted_append hposted
  cases hafter with
  | @cons s response _ front last _ hlast hfront hrest =>
    cases hrest with
    | nil =>
      refine ⟨before ++ front.map (postOf s), postOf s last, by simp, ?_, ?_⟩
      · rw [Post.verdict, postOf, hlast]
        exact hs
      · intro q hq y
        rcases List.mem_append.1 hq with hq | hq
        · intro hy
          obtain ⟨t, ht, hmismatch⟩ := mismatch_of_post hbefore hq hy
          exact hinit t ht y hmismatch
        · obtain ⟨reply, hreply, rfl⟩ := List.mem_map.1 hq
          obtain ⟨e, he⟩ := hfront reply hreply
          rw [verdict_of_error (p := postOf s reply) he]
          simp

lemma posted_ne_nil (h : Posted w subs posts) (hsubs : subs ≠ []) : posts ≠ [] := by
  cases h with
  | nil => exact absurd rfl hsubs
  | cons => simp

lemma sequence_of_post {y : Option UInt64} (hpass : Pass w d number sequence fees subs y)
    (hposted : Posted w subs posts) : ∀ p ∈ posts, p.sequence = sequence := by
  intro p hp
  obtain ⟨s, hs, hsequence, -⟩ := submission_of_post hposted hp
  rw [hsequence, (submission_of_pass hpass s hs).2]

/-- Between two passes all depends on what was lost in the first one. -/
lemma careful_iff_of_twice {front back : List Post} {p : Post}
    (hverdict : p.verdict w d = .mismatch x) (hfront : ∀ q ∈ front, ∀ y, q.verdict w d ≠ .mismatch y)
    (hfirst : ∀ q ∈ front ++ [p], q.sequence = sequence) (hsecond : ∀ q ∈ back, q.sequence = x)
    (hback : back ≠ []) :
    Careful (front ++ p :: back) ↔ ¬MisledByLoss w d (front ++ p :: back) := by
  have hp : p.sequence = sequence := hfirst p (by simp)
  have hkept : ¬p.reply.isLost := by
    intro hlost
    rw [verdict_of_lost hlost] at hverdict
    exact absurd hverdict (by simp)
  constructor
  · rintro hcareful ⟨front', p', back', x', hposts, hverdict', hne, hfront', q, hq, hlost⟩
    -- no attempt before `p` is answered with a sequence, so the misled one is `p` itself
    obtain ⟨rfl, rfl⟩ := first_unique (P := fun q : Post => ∃ y, q.verdict w d = .mismatch y) hposts
      ⟨x, hverdict⟩ ⟨x', hverdict'⟩ (fun q hq ⟨y, hy⟩ => hfront q hq y hy)
      fun q hq ⟨y, hy⟩ => hfront' q hq y hy
    obtain rfl : x = x' := Verdict.mismatch.inj (hverdict.symm.trans hverdict')
    obtain ⟨r, hr⟩ := List.exists_mem_of_ne_nil _ hback
    have hsame : r.sequence = q.sequence :=
      (List.pairwise_append.1 hcareful).2.2 q hq r (by simp [hr]) hlost
    rw [hsecond r hr, hfirst q (by simp [hq])] at hsame
    exact hne (hsame.trans hp.symm)
  · intro hsafe
    by_cases hx : x = sequence
    · apply careful_of_same
      intro q hq
      rcases List.mem_append.1 hq with hq | hq
      · exact hfirst q (by simp [hq])
      · rcases List.mem_cons.1 hq with rfl | hq
        · exact hp
        · exact (hsecond q hq).trans hx
    · have hother : x ≠ p.sequence := fun he => hx (he.trans hp)
      have hnone : ∀ q ∈ front, ¬q.reply.isLost := by
        intro q hq hlost
        apply hsafe
        exact ⟨front, p, back, x, rfl, hverdict, hother, hfront, q, hq, hlost⟩
      refine List.pairwise_append.2 ⟨?_, List.pairwise_cons.2 ⟨?_, ?_⟩, ?_⟩
      · exact careful_of_same fun q hq => hfirst q (by simp [hq])
      · intro q _ hlost
        exact absurd hlost hkept
      · exact careful_of_same hsecond
      · intro q hq r _ hlost
        exact absurd hlost (hnone q hq)

lemma careful_iff_of_passes (hpasses : Passes w d number sequence fees subs)
    (hposted : Posted w subs posts) : Careful posts ↔ ¬MisledByLoss w d posts := by
  cases hpasses with
  | once hpass =>
    refine iff_of_true (careful_of_same (sequence_of_post hpass hposted)) ?_
    rintro ⟨front, p, back, x, rfl, hverdict, -⟩
    obtain ⟨s, hs, hmismatch⟩ := mismatch_of_post hposted (by simp) hverdict
    exact no_mismatch_of_pass hpass s hs x hmismatch
  | twice hfirst hsecond =>
    obtain ⟨before, after, rfl, hbefore, hafter⟩ := posted_append hposted
    obtain ⟨init, s, hinit, -⟩ := mismatch_of_pass hfirst
    obtain ⟨front, p, rfl, hverdict, hfront⟩ := posts_of_mismatch hfirst hbefore
    have hne := posted_ne_nil hafter (pass_ne_nil hfirst (by simp [hinit]) hsecond)
    rw [List.append_assoc, List.singleton_append]
    exact careful_iff_of_twice hverdict hfront (sequence_of_post hfirst hbefore)
      (sequence_of_post hsecond hafter) hne

/-- Against whatever answers the attempts of a wallet, every attempt of a broadcast to hand over a
transaction carries the draft signed at a sequence, and no lost reply is followed by another sequence
unless the first answer that names one is misled by the loss. -/
theorem broadcast_careful_iff {σ : Type} (w : Wallet) (d : TxDraft)
    (answer : σ → Request → (String × Reply) × σ) (pause : σ → Nat → σ) (s : σ) :
    ∃ number posts, handed ((Program.attempts w.config (w.broadcast d).run).log answer pause s) =
        posts.map Post.exchange ∧
      (∀ p ∈ posts, ∃ fee, w.submission? d number p.sequence fee =
        some ⟨fee, p.sequence, p.request⟩) ∧
      (Careful posts ↔ ¬MisledByLoss w d posts) := by
  have hgoes := goes_run answer pause (Program.attempts w.config (w.broadcast d).run) s
  obtain ⟨parts, hprogram, hlog, hparts⟩ := goes_refine hgoes
  rw [hlog]
  obtain ⟨f, -, hnone, -⟩ | ⟨front, back, number, plan, first, subs, -, -, hhanded, hpasses⟩ :=
    goes_broadcast hprogram
  · have hnothing : handed (parts.map (·.1)) = exchangesOf [] := hnone
    obtain ⟨posts, hposted, hposts⟩ := posted_of_parts hparts hnothing
    cases hposted with
    | nil => exact ⟨0, [], hposts, by simp, by simp [Careful, MisledByLoss]⟩
  · obtain ⟨posts, hposted, hposts⟩ := posted_of_parts hparts hhanded
    refine ⟨number, posts, hposts, ?_, careful_iff_of_passes hpasses hposted⟩
    intro p hp
    obtain ⟨s, hs, hsequence, hrequest⟩ := submission_of_post hposted hp
    rw [hsequence, hrequest]
    exact ⟨s.1.fee, submission_of_passes hpasses s hs⟩

variable {fee : Fee} {response : Response} {first second : Submission}

/-- A draft that leaves nothing open is handed over at its own sequence, and again at the one that the
answer names. -/
lemma broadcast_goes {again : Response} (hfee : d.fee = some fee)
    (hnumber : d.accountNumber = some number) (hsequence : d.sequence = some sequence)
    (hfirst : w.submission? d number sequence fee = some first)
    (hsecond : w.submission? d number x fee = some second)
    (hresponse : verdict d response = .mismatch x)
    (hagain : ∀ b, answerOf again = .ok b → ¬(d.skipCodeCheck ∨ b.code = 0)) :
    ∃ r, (w.broadcast d).run.Goes [(first.request, response), (second.request, again)] r := by
  have hcheck : ∀ b, answerOf response = .ok b → ¬(d.skipCodeCheck ∨ b.code = 0) := by
    intro b hb hfinal
    rw [verdict, hb] at hresponse
    simp only [if_pos hfinal] at hresponse
    exact absurd hresponse (by simp)
  obtain ⟨refusal, hrefusal, hfirst⟩ := submit_goes hfirst hcheck
  obtain ⟨refusal', -, hsecond⟩ := submit_goes hsecond hagain
  have hresult := result_of_outcome (.error refusal)
  rw [hrefusal, hresponse] at hresult
  obtain ⟨f, hf⟩ := hresult
  obtain rfl := Except.error.inj hf
  have hpasses := withSequence_goes_again (w.submitPlan d number (.fixed fee))
    (hfirst.adapt (f := Refusal.toSetback)) (hsecond.adapt (f := Refusal.toSetback))
  exact ⟨_, broadcast_goes_of_passes hnumber hsequence (plan_fee sequence hfee) hpasses⟩

/-- The first transaction is lost once, and what is said of it when it comes again leads to the
second. -/
lemma attempts_goes {url body : String} (hretries : w.config.queryRetries ≠ 0)
    (hfee : d.fee = some fee) (hnumber : d.accountNumber = some number)
    (hsequence : d.sequence = some sequence)
    (hfirst : w.submission? d number sequence fee = some first)
    (hsecond : w.submission? d number x fee = some second)
    (hbody : verdict d (.ok ⟨url, body⟩) = .mismatch x) :
    ∃ r, (Program.attempts w.config (w.broadcast d).run).Goes
      [(first.request, (url, .dropped)), (first.request, (url, .answer 200 body)),
        (second.request, (url, .answer 400 ""))] r := by
  obtain ⟨retries, hcount⟩ : ∃ retries, w.config.queryRetries.toNat = retries + 1 :=
    Nat.exists_eq_succ_of_ne_zero fun h => hretries (UInt32.toNat_inj.1 h)
  obtain ⟨e, hagain, hfinal⟩ : ∃ e, second.request.respond w.config url (.answer 400 "") =
      .error e ∧ ¬e.isRetryable :=
    ⟨_, respond_of_failure (by decide), by simp [RequestError.isRetryable]⟩
  have hunread : ∀ b, answerOf (.error e) = .ok b → ¬(d.skipCodeCheck ∨ b.code = 0) := by
    intro b hb
    exact absurd hb (by simp [answerOf, Client.contentOf])
  obtain ⟨r, hgoes⟩ := broadcast_goes hfee hnumber hsequence hfirst hsecond hbody hunread
  have honce : (first.request.attempts w.config retries).Goes
      [(first.request, (url, .answer 200 body))] (.ok ⟨url, body⟩) :=
    Goes.attempts_of_final retries (url, .answer 200 body)
      fun e he => absurd he (by simp [Request.respond, Reply.response])
  have htwice : (first.request.perform w.config).Goes
      [(first.request, (url, .dropped)), (first.request, (url, .answer 200 body))]
      (.ok ⟨url, body⟩) := by
    rw [Request.perform, hcount]
    exact Goes.attempts_of_retryable rfl rfl honce
  have hlast : (second.request.perform w.config).Goes
      [(second.request, (url, .answer 400 ""))] (.error e) := by
    rw [← hagain]
    exact Goes.attempts_of_final _ (url, .answer 400 "")
      fun e' he' => Except.error.inj (hagain.symm.trans he') ▸ hfinal
  have hattempts := hgoes.refine (f := Request.perform w.config)
    [((first.request, .ok ⟨url, body⟩),
      [(first.request, (url, .dropped)), (first.request, (url, .answer 200 body))]),
      ((second.request, .error e), [(second.request, (url, .answer 400 ""))])]
    (by simpa using ⟨htwice, hlast⟩)
  exact ⟨r, hattempts⟩

/-- No wallet that repeats requests is careful with a draft that leaves nothing open: its transaction
is lost once, and the answer to it when it comes again names another sequence. -/
theorem broadcast_careless {url body : String} (hretries : w.config.queryRetries ≠ 0)
    (hfee : d.fee = some fee) (hnumber : d.accountNumber = some number)
    (hsequence : d.sequence = some sequence)
    (hsigned : (w.submission? d number sequence fee).isSome)
    (hbody : verdict d (.ok ⟨url, body⟩) = .mismatch x) (hx : x ≠ sequence) :
    ∃ posts, handed ((Program.attempts w.config (w.broadcast d).run).log
        (Course.replay (url, .hung)) (fun script _ => script)
        [(url, .dropped), (url, .answer 200 body), (url, .answer 400 "")]) =
          posts.map Post.exchange ∧
      (∀ p ∈ posts, w.submission? d number p.sequence fee = some ⟨fee, p.sequence, p.request⟩) ∧
      ¬Careful posts := by
  obtain ⟨first, hfirst⟩ := Option.isSome_iff_exists.1 hsigned
  obtain ⟨second, hsecond⟩ : ∃ s, w.submission? d number x fee = some s := by
    rw [← Option.isSome_iff_exists, submission?_isSome, ← submission?_isSome w d number sequence fee]
    exact hsigned
  obtain ⟨r, hgoes⟩ := attempts_goes hretries hfee hnumber hsequence hfirst hsecond hbody
  have hlog := Course.log_replay hgoes (url, .hung)
  obtain ⟨-, text, -, -, rfl⟩ := signed_of_submission hfirst
  obtain ⟨-, text', -, -, rfl⟩ := signed_of_submission hsecond
  refine ⟨[⟨sequence, handing text, url, .dropped⟩, ⟨sequence, handing text, url, .answer 200 body⟩,
    ⟨x, handing text', url, .answer 400 ""⟩], (congrArg handed hlog).trans rfl, ?_, ?_⟩
  · simp [hfirst, hsecond]
  · simp [Careful, Reply.isLost, hx]

/-- A payment that leaves nothing open, at the sequence 5. -/
def settledDraft : TxDraft :=
  { messages := [payment]
    fee := some (Fee.ofGas 200000 Coins.empty)
    accountNumber := some 1
    sequence := some 5 }

def mismatchBody : String :=
  "\x7b\"tx_response\":\x7b\"txhash\":\"AB\",\"code\":32," ++
    "\"raw_log\":\"account sequence mismatch, expected 6, got 5\"\x7d\x7d"

theorem settledDraft_careless :
    ∃ posts, handed ((Program.attempts plainWallet.config (plainWallet.broadcast settledDraft).run).log
        (Course.replay ("http://lcd0", .hung)) (fun script _ => script)
        [("http://lcd0", .dropped), ("http://lcd0", .answer 200 mismatchBody),
          ("http://lcd0", .answer 400 "")]) = posts.map Post.exchange ∧
      (∀ p ∈ posts, plainWallet.submission? settledDraft 1 p.sequence (Fee.ofGas 200000 Coins.empty) =
        some ⟨Fee.ofGas 200000 Coins.empty, p.sequence, p.request⟩) ∧
      ¬Careful posts :=
  broadcast_careless (by decide) rfl rfl rfl (submission?_isSome ..) (x := 6) (by decide +kernel)
    (by decide)

end CosmosClient.Proofs
