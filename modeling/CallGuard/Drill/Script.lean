import CallGuard.Guard
import CallGuard.Typed

/-!
# Scripts

A drill exercises breakers on a clock of its own. Its operations do nothing but take time and
come to a result that is fixed beforehand.
-/

namespace CallGuard.Drill

/-- An error of the drill's own, with the text of the fault that is its cause. -/
structure Raised where
  cause : Fault

instance : ErrorType Raised := ⟨fun e => Fault.wrap e.cause.text e.cause⟩

/-- A result that is fixed beforehand, after a number of milliseconds. -/
structure Scripted where
  result : Except Fault Int64
  takesMs : UInt64

namespace Scripted

def standard : Scripted := ⟨.ok 0, 0⟩

def bare (s : Scripted) : Operation Int64 := fun now =>
  (s.result, Instant.wake now (Span.ofMillis s.takesMs))

/-- The work with the result; its fault is the cause of an error of the drill's own. -/
def work (s : Scripted) : Work Raised Int64 := fun now =>
  (s.result.mapError Raised.mk, Instant.wake now (Span.ofMillis s.takesMs))

def operation (s : Scripted) : Operation Int64 := s.work.boxed

end Scripted

/-- The outcome of an attempt: the last one repeats, and an empty script succeeds. -/
def outcomeAt (script : List Scripted) (attempt : Nat) : Scripted :=
  match script[min attempt (script.length - 1)]? with
  | some s => s
  | none => .standard

inductive RetryCondition where
  /-- After every failure. -/
  | failure
  | always
  | never
  | success
  /-- After a failure, and after a value that is a status worth retrying. -/
  | status
  /-- After the first two results. -/
  | firstTwo
deriving DecidableEq

/-- Whether a result, of which `asked` came before, meets the condition. -/
def RetryCondition.holds {ε : Type} (c : RetryCondition) (asked : Nat) :
    Except ε Int64 → Bool := fun result =>
  match c, result with
  | .failure, .ok _ => false
  | .failure, .error _ => true
  | .always, _ => true
  | .never, _ => false
  | .success, .ok _ => true
  | .success, .error _ => false
  | .status, .ok v => ((HttpStatus.ofCode? v.toInt.toNat).map HttpStatus.isWorthRetrying).getD false
  | .status, .error _ => true
  | .firstTwo, _ => asked < 2

/-- What a scripted run under a retrier alone leaves behind. -/
structure Trace where
  asked : Nat
  notices : List Notice

def scriptSubject (script : List Scripted) (condition : RetryCondition) :
    Retry.Subject Trace (Except Fault Int64) where
  attempt i now t :=
    let (result, finished) := (outcomeAt script i).operation now
    (result, finished, t)
  wantsRetry result t := (condition.holds t.asked result, { t with asked := t.asked + 1 })
  asleep _ _ t := t
  report notices t := { t with notices := t.notices ++ notices }

def runScript (r : Retrier) (draws : Nat → Nat) (c : Cancellation) (script : List Scripted)
    (condition : RetryCondition) : Retry.Ended Trace (Except Fault Int64) :=
  Retry.run r draws c (scriptSubject script condition) 0 ⟨0, []⟩

end CallGuard.Drill
