import Mathlib
import CosmosClient.Client.Balance
import CosmosClient.Proofs.CoinSums
import CosmosClient.Proofs.Exchanges
import CosmosClient.Proofs.RecordFields
import CosmosClient.Proofs.TxText

/-!
# Balances in pages

The pages of a balance are asked for one by one, each with the key that the page before it gave, until
a page gives none or an answer is no page. The balance is the sum of the coins of all pages, however
they are split and ordered, and there is none if an answer is no page.
-/

namespace CosmosClient.Client

/-- What an answer says as a page of coins. -/
def pageOf : Response → Except RequestError BalancePage :=
  contentOf BalancePage.ofJson

/-- The answers are pages that each give the key of another one. -/
structure Continued (answers : List Response) (pages : List BalancePage) : Prop where
  read : answers.map pageOf = pages.map .ok
  more : ∀ page ∈ pages, page.nextKey.isSome

/-- The answer ends a balance: it is no page, or a page without the key of another one. -/
def Ends (response : Response) : Prop :=
  ∀ page, pageOf response = .ok page → page.nextKey = none

/-- The request for the first page, or for the page with a key. -/
def pageRequest (address : String) (height : Option UInt64) : Option String → Request
  | none => { path := "/cosmos/bank/v1beta1/balances/" ++ address, height }
  | some key =>
    { path := "/cosmos/bank/v1beta1/balances/" ++ address
      query := [("pagination.key", key)]
      height }

/-- The requests for a page and for those whose keys the pages before give. -/
def pageRequests (address : String) (height : Option UInt64) (key : Option String)
    (pages : List BalancePage) : List Request :=
  (key :: pages.map (·.nextKey)).map (pageRequest address height)

def coinsIn (pages : List BalancePage) : List Coin := pages.flatMap (·.balances)

/-- The sum of the coins of pages and of an answer, if that is a page. -/
def balanceWith (sum : Coins) (pages : List BalancePage) (response : Response) :
    Except RequestError (Option Coins) :=
  (pageOf response).map fun last => some ((coinsIn (pages ++ [last])).foldl Coins.addCoin sum)

/-- The exchanges for a balance, in no more pages than a limit, from a key and a sum on, with the
result. -/
inductive Paged (address : String) (height : Option UInt64) (limit : Nat) (key : Option String)
    (sum : Coins) : List (Request × Response) → Except RequestError (Option Coins) → Prop where
  | ended {answers : List Response} {pages : List BalancePage} {response : Response}
      (hfront : Continued answers pages) (hend : Ends response) (hlimit : pages.length < limit) :
      Paged address height limit key sum
        ((pageRequests address height key pages).zip (answers ++ [response]))
        (balanceWith sum pages response)
  | cut {answers : List Response} {pages : List BalancePage} (hfront : Continued answers pages)
      (hlimit : pages.length = limit) :
      Paged address height limit key sum ((pageRequests address height key pages).zip answers)
        (.ok none)

namespace BalancePage

def keyText? : Json → Option String
  | .str key => if key = "" then none else some key
  | _ => none

/-- The key of the next page in a document: a text that is not empty, in a record of its own. -/
def keyIn? (j : Json) : Option String :=
  ((j.part? "pagination" 1).bind fun pagination => pagination.part? "next_key" 0).bind keyText?

end BalancePage
end CosmosClient.Client

namespace CosmosClient.Proofs
open Client
open Course (Goes)

variable {address : String} {height : Option UInt64} {limit : Nat} {key : Option String}
  {sum : Coins} {es : List (Request × Response)} {r : Except RequestError (Option Coins)}

lemma keyOfJson_eq_ok {j : Json} {key : Option String} (h : BalancePage.nextKeyOfJson j = .ok key) :
    key = (j.part? "next_key" 0).bind BalancePage.keyText? := by
  obtain ⟨found, hread, h⟩ := bind_eq_ok.1 h
  obtain rfl := pure_eq_ok.1 h
  have hfield : Filled (Json.optional Json.text) id id (j.part? "next_key" 0) none found :=
    record_field hread (fills_own (fun _ _ => rfl) fills_nil) rfl (by simp)
  obtain ⟨hnone, rfl⟩ | ⟨q, s, hsome, hs, rfl⟩ := filled_optional hfield rfl
  · rcases hnone with hnone | hnull
    · rw [hnone]
      rfl
    · rw [hnull]
      rfl
  · obtain rfl := text_eq_ok hs
    rw [hsome]
    by_cases hempty : s = "" <;> simp [BalancePage.keyText?, hempty]

/-- The known fields of a page. -/
lemma pageOfJson_eq_ok {j : Json} {page : BalancePage} (h : BalancePage.ofJson j = .ok page) :
    page.nextKey = BalancePage.keyIn? j ∧
      ∃ balances, j.part? "balances" 0 = some balances ∧
        Json.list Coin.ofJson balances = .ok page.balances := by
  obtain ⟨⟨found, key⟩, hread, h⟩ := bind_eq_ok.1 h
  obtain ⟨coins, hcoins, h⟩ := bind_eq_ok.1 h
  obtain rfl := pure_eq_ok.1 h
  have hbalances : Filled (Json.list Coin.ofJson) Prod.fst some (j.part? "balances" 0)
      (none, none) (found, key) :=
    record_field hread (fills_own (fun _ _ => rfl)
      (fills_other (by decide) (fun _ _ => rfl) fills_nil)) rfl (by simp [Json.slot])
  have hpagination : Filled (Json.optional BalancePage.nextKeyOfJson) Prod.snd id
      (j.part? "pagination" 1) (none, none) (found, key) :=
    record_field hread (fills_other (by decide) (fun _ _ => rfl)
      (fills_own (fun _ _ => rfl) fills_nil)) rfl (by simp [Json.slot])
  refine ⟨?_, filled_required hbalances rfl (require_eq_ok.1 hcoins)⟩
  unfold BalancePage.keyIn?
  obtain ⟨hnone, rfl⟩ | ⟨q, k, hsome, hk, rfl⟩ := filled_optional hpagination rfl
  · rcases hnone with hnone | hnull
    · rw [hnone]
      rfl
    · rw [hnull]
      rfl
  · rw [hsome]
    exact keyOfJson_eq_ok hk

lemma page_of_answer {response : Response} {page : BalancePage} (h : pageOf response = .ok page) :
    ∃ answer, response = .ok answer ∧
      BalancePage.ofJson (Json.read answer.body).1 = .ok page := by
  unfold pageOf contentOf at h
  split at h
  next => exact absurd h (by simp)
  next answer =>
    split at h
    next hdecode =>
      obtain rfl := Except.ok.inj h
      exact ⟨answer, rfl, decodeText_eq_ok hdecode⟩
    next => exact absurd h (by simp)

lemma ends_of_error {response : Response} {e : RequestError} (h : pageOf response = .error e) :
    Ends response := fun _ hpage => absurd (h.symm.trans hpage) (by simp)

lemma ends_of_last {response : Response} {page : BalancePage} (hread : pageOf response = .ok page)
    (hlast : page.nextKey = none) : Ends response := by
  intro page' hread'
  obtain rfl := Except.ok.inj (hread.symm.trans hread')
  exact hlast

lemma continued_nil : Continued [] [] := ⟨rfl, by simp⟩

lemma continued_cons {response : Response} {page : BalancePage} {next : String}
    {answers : List Response} {pages : List BalancePage} (hread : pageOf response = .ok page)
    (hnext : page.nextKey = some next) (h : Continued answers pages) :
    Continued (response :: answers) (page :: pages) := by
  constructor
  · rw [List.map_cons, List.map_cons, hread, h.read]
  · exact List.forall_mem_cons.2 ⟨Option.isSome_iff_exists.2 ⟨next, hnext⟩, h.more⟩

lemma continued_uncons {page : BalancePage} {answers : List Response} {pages : List BalancePage}
    (h : Continued answers (page :: pages)) :
    ∃ response next rest, answers = response :: rest ∧ pageOf response = .ok page ∧
      page.nextKey = some next ∧ Continued rest pages := by
  obtain ⟨hpage, hpages⟩ := List.forall_mem_cons.1 h.more
  obtain ⟨next, hnext⟩ := Option.isSome_iff_exists.1 hpage
  obtain ⟨response, rest, rfl, hread, hrest⟩ := List.map_eq_cons_iff.1 h.read
  exact ⟨response, next, rest, rfl, hread, hnext, hrest, hpages⟩

lemma length_of_continued {answers : List Response} {pages : List BalancePage}
    (h : Continued answers pages) : answers.length = pages.length := by
  simpa using congrArg List.length h.read

lemma pageRequests_cons {page : BalancePage} {next : String} (pages : List BalancePage)
    (hnext : page.nextKey = some next) :
    pageRequests address height key (page :: pages) =
      pageRequest address height key :: pageRequests address height (some next) pages := by
  simp only [pageRequests, List.map_cons, hnext]

lemma balanceWith_cons (sum : Coins) (page : BalancePage) (pages : List BalancePage)
    (response : Response) :
    balanceWith sum (page :: pages) response =
      balanceWith (page.balances.foldl Coins.addCoin sum) pages response := by
  simp only [balanceWith, coinsIn, List.cons_append, List.flatMap_cons, List.foldl_append]

lemma balanceWith_error (sum : Coins) (pages : List BalancePage) {response : Response}
    {e : RequestError} (h : pageOf response = .error e) :
    balanceWith sum pages response = .error e := by
  rw [balanceWith, h]
  rfl

lemma balanceWith_last (sum : Coins) {response : Response} {last : BalancePage}
    (h : pageOf response = .ok last) :
    balanceWith sum [] response = .ok (some (last.balances.foldl Coins.addCoin sum)) := by
  rw [balanceWith, h]
  simp [coinsIn]

lemma balanceRequest_eq (address : String) (height : Option UInt64) (key : Option String) :
    balanceRequest address height key = pageRequest address height key := by
  cases key <;> rfl

/-- One page is asked for, and only its key leads to another one. -/
lemma balanceFrom_run (address : String) (height : Option UInt64) (limit : Nat)
    (key : Option String) (sum : Coins) :
    (balanceFrom address height (limit + 1) key sum).run =
      .ask (pageRequest address height key) fun response =>
        match pageOf response with
        | .error e => .done (.error e)
        | .ok page =>
          match page.nextKey with
          | none => .done (.ok (some (page.balances.foldl Coins.addCoin sum)))
          | some next =>
            (balanceFrom address height limit (some next)
              (page.balances.foldl Coins.addCoin sum)).run := by
  have hfetch : (fetch BalancePage.ofJson (balanceRequest address height key)).run =
      .ask (pageRequest address height key) fun response => .done (pageOf response) := by
    rw [balanceRequest_eq]
    exact fetch_run _ _
  refine (bind_asked hfetch _).trans (congrArg (Course.ask _) ?_)
  funext response
  cases pageOf response with
  | error e => rfl
  | ok page => cases page.nextKey <;> rfl

lemma paged_cons {response : Response} {page : BalancePage} {next : String}
    (hread : pageOf response = .ok page) (hnext : page.nextKey = some next)
    (h : Paged address height limit (some next) (page.balances.foldl Coins.addCoin sum) es r) :
    Paged address height (limit + 1) key sum ((pageRequest address height key, response) :: es) r := by
  cases h with
  | @ended answers pages last hfront hend hlimit =>
    have hpaged : Paged address height (limit + 1) key sum _ _ :=
      .ended (continued_cons hread hnext hfront) hend (Nat.succ_lt_succ hlimit)
    rwa [pageRequests_cons pages hnext, balanceWith_cons] at hpaged
  | @cut answers pages hfront hlimit =>
    have hpaged : Paged address height (limit + 1) key sum _ _ :=
      .cut (continued_cons hread hnext hfront) (congrArg (· + 1) hlimit)
    rwa [pageRequests_cons pages hnext] at hpaged

lemma paged_singleton {response : Response} (hend : Ends response) :
    Paged address height (limit + 1) key sum [(pageRequest address height key, response)]
      (balanceWith sum [] response) :=
  .ended continued_nil hend (Nat.succ_pos _)

/-- Pages are asked for up to the first answer that ends the balance. -/
lemma goes_balanceFrom (h : (balanceFrom address height limit key sum).run.Goes es r) :
    Paged address height limit key sum es r := by
  induction limit generalizing key sum es with
  | zero =>
    obtain ⟨rfl, rfl⟩ := goes_pure h
    exact .cut continued_nil rfl
  | succ limit ih =>
    rw [balanceFrom_run] at h
    cases h with
    | @ask _ _ response es _ h =>
    cases hread : pageOf response with
    | error e =>
      simp only [hread] at h
      obtain ⟨rfl, rfl⟩ := goes_done h
      rw [← balanceWith_error sum [] hread]
      exact paged_singleton (ends_of_error hread)
    | ok page =>
      cases hnext : page.nextKey with
      | none =>
        simp only [hread, hnext] at h
        obtain ⟨rfl, rfl⟩ := goes_done h
        rw [← balanceWith_last sum hread]
        exact paged_singleton (ends_of_last hread hnext)
      | some next =>
        simp only [hread, hnext] at h
        exact paged_cons hread hnext (ih h)

/-- A balance goes through any pages that are not more than the limit. -/
lemma balanceFrom_goes {answers : List Response} {pages : List BalancePage} {response : Response}
    (hfront : Continued answers pages) (hend : Ends response) (hlimit : pages.length < limit) :
    (balanceFrom address height limit key sum).run.Goes
      ((pageRequests address height key pages).zip (answers ++ [response]))
      (balanceWith sum pages response) := by
  obtain ⟨limit, rfl⟩ := Nat.exists_eq_add_one_of_ne_zero (Nat.ne_zero_of_lt hlimit)
  induction pages generalizing answers limit key sum with
  | nil =>
    obtain rfl := List.map_eq_nil_iff.1 hfront.read
    rw [balanceFrom_run]
    refine .ask ?_
    cases hread : pageOf response with
    | error e =>
      rw [balanceWith_error sum [] hread]
      exact .done _
    | ok page =>
      rw [balanceWith_last sum hread]
      simp only [hend page hread]
      exact .done _
  | cons page pages ih =>
    obtain ⟨first, next, rest, rfl, hread, hnext, hrest⟩ := continued_uncons hfront
    rw [balanceFrom_run, pageRequests_cons pages hnext, balanceWith_cons]
    refine .ask ?_
    simp only [hread, hnext]
    have hlimit : pages.length < limit := Nat.lt_of_succ_lt_succ hlimit
    obtain ⟨limit, rfl⟩ := Nat.exists_eq_add_one_of_ne_zero (Nat.ne_zero_of_lt hlimit)
    exact ih hrest limit hlimit

lemma replayed_pages {answers : List Response} {pages : List BalancePage} {response : Response}
    (hfront : Continued answers pages) (hend : Ends response) (hlimit : pages.length < limit)
    (otherwise : Response) (rest : List Response) :
    let answer := Course.replay otherwise
    let script := answers ++ response :: rest
    (balance limit address height).run.log answer (fun script _ => script) script =
        (pageRequests address height none pages).zip (answers ++ [response]) ∧
      (balance limit address height).run.run answer (fun script _ => script) script =
        (balanceWith Coins.empty pages response, rest) := by
  have hgoes : (balance limit address height).run.Goes
      ((pageRequests address height none pages).zip (answers ++ [response]))
      (balanceWith Coins.empty pages response) := balanceFrom_goes hfront hend hlimit
  have hlength : (answers ++ [response]).length ≤ (pageRequests address height none pages).length := by
    simp [pageRequests, length_of_continued hfront]
  have hreplay := Course.replay_append hgoes otherwise rest
  rw [List.map_snd_zip hlength, List.append_assoc] at hreplay
  exact hreplay

lemma balanceWith_ok {pages : List BalancePage} {response : Response} {last : BalancePage}
    (h : pageOf response = .ok last) :
    balanceWith Coins.empty pages response =
      .ok (some (Coins.ofList (coinsIn (pages ++ [last])))) := by
  rw [balanceWith, h]
  rfl

/-- Whatever answers, a balance asks for the same path at the same height, first without a key and
then with the key of the page before, as long as there is one and the limit allows. Any finite
sequence of pages is gone through with one request for each of them; then the balance holds, of each
denomination, the sum of all amounts on all pages up to the greatest amount, and it is the same for
the same coins on other pages or in another order. If an answer is no page, that error is all there
is. The key of a page is the text in its document that is not empty, if there is one. -/
theorem balance_pages {σ : Type} (limit : Nat) (address : String) (height : Option UInt64)
    (respond : σ → Request → Response × σ) (pause : σ → Nat → σ) (s : σ) :
    Paged address height limit none Coins.empty
      ((balance limit address height).run.log respond pause s)
      ((balance limit address height).run.run respond pause s).1 ∧
    (∀ answers pages response, Continued answers pages → Ends response → pages.length < limit →
      ∀ otherwise rest,
        let answer := Course.replay otherwise
        let script := answers ++ response :: rest
        (balance limit address height).run.log answer (fun script _ => script) script =
            (pageRequests address height none pages).zip (answers ++ [response]) ∧
          (balance limit address height).run.run answer (fun script _ => script) script =
            (balanceWith Coins.empty pages response, rest)) ∧
    (∀ pages response last, pageOf response = .ok last →
      ∃ coins, balanceWith Coins.empty pages response = .ok (some coins) ∧
        ∀ d, coins.get d = min (Coins.total (coinsIn (pages ++ [last])) d) Amount.max) ∧
    (∀ pages pages' response response' last last', pageOf response = .ok last →
      pageOf response' = .ok last' →
      (coinsIn (pages ++ [last])).Perm (coinsIn (pages' ++ [last'])) →
        balanceWith Coins.empty pages response = balanceWith Coins.empty pages' response') ∧
    (∀ response e, response = .error e ∨ pageOf response = .error e →
      Ends response ∧ ∀ pages, balanceWith Coins.empty pages response = .error e) ∧
    ∀ response page, pageOf response = .ok page →
      ∃ answer, response = .ok answer ∧
        page.nextKey = BalancePage.keyIn? (Json.read answer.body).1 ∧
        ∃ balances, (Json.read answer.body).1.part? "balances" 0 = some balances ∧
          Json.list Coin.ofJson balances = .ok page.balances := by
  refine ⟨goes_balanceFrom (goes_run respond pause _ s), ?_, ?_, ?_, ?_, ?_⟩
  · intro answers pages response hfront hend hlimit otherwise rest
    exact replayed_pages hfront hend hlimit otherwise rest
  · intro pages response last hlast
    exact ⟨_, balanceWith_ok hlast, get_ofList _⟩
  · intro pages pages' response response' last last' hlast hlast' hperm
    rw [balanceWith_ok hlast, balanceWith_ok hlast', ofList_perm hperm]
  · intro response e hfailed
    have hread : pageOf response = .error e := by
      obtain rfl | hread := hfailed
      · rfl
      · exact hread
    exact ⟨ends_of_error hread, fun pages => balanceWith_error _ pages hread⟩
  · intro response page hpage
    obtain ⟨answer, rfl, hdecode⟩ := page_of_answer hpage
    exact ⟨answer, rfl, pageOfJson_eq_ok hdecode⟩

/-- An answer with coins and with what it says on further pages. -/
def coinAnswer (coins more : String) : Response :=
  .ok ⟨"http://lcd0", "\x7b\"balances\":[" ++ coins ++ "]" ++ more ++ "\x7d"⟩

/-- The first of three pages and a second one without coins, as an object and as arrays. -/
def splitAnswers : List Response :=
  [coinAnswer "\x7b\"denom\":\"uatom\",\"amount\":\"10\"\x7d"
      ",\"pagination\":\x7b\"next_key\":\"AQ==\",\"total\":\"0\"\x7d",
    coinAnswer "" ",\"pagination\":[\"Ag==\"]"]

def splitPages : List BalancePage :=
  [⟨[⟨"uatom", .clamp 10⟩], some "AQ=="⟩, ⟨[], some "Ag=="⟩]

/-- The last page, with an empty key and with as many coins as an amount can be. -/
def lastAnswer : Response :=
  coinAnswer "[\"uosmo\",\"5\"],[\"uatom\",\"340282366920938463463374607431768211455\"]"
    ",\"pagination\":\x7b\"next_key\":\"\"\x7d"

/-- The same coins in another order and on one page. -/
def wholeAnswer : Response :=
  coinAnswer ("[\"uatom\",\"340282366920938463463374607431768211455\"],[\"uosmo\",\"5\"]," ++
    "[\"uatom\",\"10\"]") ",\"pagination\":null"

theorem splitBalance_summed : Continued splitAnswers splitPages ∧ Ends lastAnswer ∧
    let run := fun script =>
      (balance 3 "cosmos1" (some 7)).run.run (Course.replay lastAnswer) (fun script _ => script) script
    let log :=
      (balance 3 "cosmos1" (some 7)).run.log (Course.replay lastAnswer) (fun script _ => script)
        (splitAnswers ++ [lastAnswer])
    log.map (·.1) = [none, some "AQ==", some "Ag=="].map (pageRequest "cosmos1" (some 7)) ∧
    (∃ coins, run (splitAnswers ++ [lastAnswer]) = (.ok (some coins), []) ∧
      coins.get "uatom" = Amount.max ∧ coins.get "uosmo" = 5 ∧
      run [wholeAnswer] = (.ok (some coins), [])) ∧
    run (splitAnswers ++ [.error (.timeout "http://lcd0" 10)]) =
      (.error (.timeout "http://lcd0" 10), []) := by
  obtain ⟨-, hpages, hsum, hsame, hfail, -⟩ := balance_pages 3 "cosmos1" (some 7)
    (Course.replay lastAnswer) (fun script _ => script) []
  have hlast : pageOf lastAnswer = .ok ⟨[⟨"uosmo", .clamp 5⟩, ⟨"uatom", .clamp Amount.max⟩], none⟩ :=
    toOption_eq_some.1 (by decide +kernel)
  have hwhole : pageOf wholeAnswer = .ok ⟨[⟨"uatom", .clamp Amount.max⟩, ⟨"uosmo", .clamp 5⟩,
      ⟨"uatom", .clamp 10⟩], none⟩ := toOption_eq_some.1 (by decide +kernel)
  have hsplit : Continued splitAnswers splitPages := by
    refine continued_cons (toOption_eq_some.1 (by decide +kernel)) rfl ?_
    exact continued_cons (toOption_eq_some.1 (by decide +kernel)) rfl continued_nil
  obtain ⟨hlog, hrun⟩ := hpages _ _ _ hsplit (ends_of_last hlast rfl) (by decide) lastAnswer []
  obtain ⟨-, hone⟩ := hpages _ _ _ continued_nil (ends_of_last hwhole rfl) (by decide) lastAnswer []
  obtain ⟨coins, hcoins, hget⟩ := hsum splitPages lastAnswer _ hlast
  have hperm := hsame splitPages [] _ _ _ _ hlast hwhole (by decide +kernel)
  obtain ⟨hstop, herror⟩ := hfail (.error (.timeout "http://lcd0" 10)) _ (.inl rfl)
  obtain ⟨-, hfailed⟩ := hpages _ _ _ hsplit hstop (by decide) lastAnswer []
  refine ⟨hsplit, ends_of_last hlast rfl, ?_, ⟨coins, ?_, ?_, ?_, ?_⟩, ?_⟩
  · exact congrArg (List.map Prod.fst) hlog
  · exact hrun.trans (congrArg (·, []) hcoins)
  · rw [hget]
    decide +kernel
  · rw [hget]
    decide +kernel
  · exact hone.trans (congrArg (·, []) (hperm.symm.trans hcoins))
  · exact hfailed.trans (congrArg (·, []) (herror splitPages))

end CosmosClient.Proofs
