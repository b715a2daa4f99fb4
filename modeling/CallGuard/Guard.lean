import CallGuard.Breaker.Call
import CallGuard.Retry.Run

/-!
# Guards

A guard puts a retrier around a breaker. Each attempt asks the breaker for admission; only an
operation that ran and failed with a fault that counts is attempted again.
-/

namespace CallGuard

structure Guard where
  breaker : Breaker
  retrier : Retrier
  classifier : Classifier

namespace Guard

def describe (g : Guard) : String :=
  "Envelope \x7b breaker: " ++ g.breaker.describe ++ ", retrier: " ++ g.retrier.describe
    ++ ", .. \x7d"

/-- What a guarded run leaves behind: the breaker, what was reported, and the attempts whose
operation ran. -/
structure Progress where
  breaker : Breaker
  notices : List Notice
  invocations : List (Nat × Instant)

def wantsRetry {α : Type} (classifier : Classifier) : Except CallError α → Bool
  | .error (.operation fault) => classifier fault == .counted
  | _ => false

def subject {α : Type} (classifier : Classifier) (others : Bystanders)
    (operation : Nat → Operation α) : Retry.Subject Progress (Except CallError α) where
  attempt i now p :=
    let called := p.breaker.callAmong others now (operation i)
    (called.result, called.finished,
      { breaker := called.breaker
        notices := p.notices ++ called.notices
        invocations := if called.invoked then p.invocations ++ [(i, now)] else p.invocations })
  wantsRetry result p := (wantsRetry classifier result, p)
  asleep now wake p :=
    let (b, meanwhile) := others now wake p.breaker
    { p with breaker := b, notices := p.notices ++ meanwhile }
  report notices p := { p with notices := p.notices ++ notices }

def callAmong {α : Type} (others : Bystanders) (g : Guard) (draws : Nat → Nat) (c : Cancellation)
    (operation : Nat → Operation α) (now : Instant) :
    Retry.Ended Progress (Except CallError α) :=
  Retry.run g.retrier draws c (subject g.classifier others operation) now
    ⟨g.breaker, [], []⟩

def call {α : Type} (g : Guard) (draws : Nat → Nat) (c : Cancellation)
    (operation : Nat → Operation α) (now : Instant) :
    Retry.Ended Progress (Except CallError α) :=
  g.callAmong Bystanders.none draws c operation now

/-- The result of a guarded run; a run cancelled before it began fails with that. -/
def resultOf {α : Type} (ended : Retry.Ended Progress (Except CallError α)) :
    Except CallError α :=
  ended.result.getD (.error (.operation Fault.cancelled))

end Guard

end CallGuard
