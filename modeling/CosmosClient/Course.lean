/-!
# Courses of action

A course asks for something, waits, or has a result, and how it goes on depends on the answers. It is
run against any state that answers, and what one course asks for may be another course.
-/

namespace CosmosClient

/-- A course that asks for `act`, is answered with `ans` and results in `α`. -/
inductive Course (act ans α : Type) where
  | done (result : α)
  | ask (a : act) (next : ans → Course act ans α)
  | sleep (seconds : Nat) (next : Course act ans α)

namespace Course

variable {act ans act' ans' α β σ : Type}

/-- One course after another, which depends on the result of the first. -/
def bind : Course act ans α → (α → Course act ans β) → Course act ans β
  | .done a, f => f a
  | .ask a next, f => .ask a fun x => bind (next x) f
  | .sleep seconds next, f => .sleep seconds (bind next f)

instance : Monad (Course act ans) where
  pure := .done
  bind := bind

/-- The course in which everything that is asked for is a course itself. -/
def refine (f : act → Course act' ans' ans) : Course act ans α → Course act' ans' α
  | .done a => .done a
  | .ask a next => (f a).bind fun x => refine f (next x)
  | .sleep seconds next => .sleep seconds (refine f next)

/-- Runs a course against a state. -/
def run (answer : σ → act → ans × σ) (pause : σ → Nat → σ) : Course act ans α → σ → α × σ
  | .done a, s => (a, s)
  | .ask a next, s =>
    let (x, s) := answer s a
    run answer pause (next x) s
  | .sleep seconds next, s => run answer pause next (pause s seconds)

end Course
end CosmosClient
