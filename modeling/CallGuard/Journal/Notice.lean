import CallGuard.Breaker.State
import CallGuard.Settings.Basic

/-!
# Notices

Everything that breakers, retriers and registries report goes into one journal. Listeners, the
log and the metrics are views of it.
-/

namespace CallGuard

inductive Notice where
  | created (settings : BreakerSettings)
  | disabled (breaker : String)
  | windowElapsed (breaker : String)
  | changed (change : Change)
  | rejected (breaker : String) (reason : Rejection)
  | booked (breaker : String) (outcome : Outcome)
  | retrying (retrier : String) (attempt : Nat) (delay : Span)
  | exhausted (retrier : String) (attempts : Nat)
  | cancelled (retrier : String) (attempt : Nat)
  | registryBuilt (breakers : Nat)
  | wrongType (breaker expected : String)
deriving DecidableEq

namespace Notice

def change? : Notice → Option Change
  | changed c => some c
  | _ => none

def changes (notices : List Notice) : List Change := notices.filterMap change?

@[simp] theorem changes_append (earlier later : List Notice) :
    changes (earlier ++ later) = changes earlier ++ changes later :=
  List.filterMap_append

def field (name value : String) : String := " " ++ name ++ "=" ++ value

/-- The line of the log, if the notice has one. -/
def logLine? : Notice → Option String
  | created s =>
    some ("DEBUG Circuit breaker created" ++ field "breaker" s.name
      ++ field "threshold" (toString s.threshold) ++ field "open_timeout" s.openTimeout.text
      ++ field "rolling" (toString s.isRolling))
  | disabled breaker =>
    some ("INFO Circuit breaker disabled, calls pass through" ++ field "breaker" breaker)
  | windowElapsed breaker =>
    some ("TRACE Closed window elapsed, counters reset" ++ field "breaker" breaker)
  | changed c =>
    some ((if c.target = .opened then "WARN" else "INFO") ++ " Circuit breaker state changed"
      ++ field "breaker" c.breaker ++ field "from" c.source.name ++ field "to" c.target.name)
  | rejected breaker reason =>
    some ("DEBUG Call rejected" ++ field "breaker" breaker ++ field "reason" reason.name)
  | booked _ _ => none
  | retrying retrier attempt delay =>
    some ("INFO Retrying operation" ++ field "retrier" retrier
      ++ field "attempt" (toString attempt) ++ field "delay" delay.text)
  | exhausted retrier attempts =>
    some ("WARN Retries exhausted" ++ field "retrier" retrier
      ++ field "attempts" (toString attempts))
  | cancelled retrier attempt =>
    some ("DEBUG Retry cancelled during backoff" ++ field "retrier" retrier
      ++ field "attempt" (toString attempt))
  | registryBuilt breakers =>
    some ("INFO Breaker registry built" ++ field "breakers" (toString breakers))
  | wrongType breaker expected =>
    some ("ERROR Breaker returned a value of the wrong type" ++ field "breaker" breaker
      ++ field "expected" expected)

end Notice

end CallGuard
