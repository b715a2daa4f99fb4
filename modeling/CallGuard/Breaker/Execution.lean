import CallGuard.Breaker.Call

/-!
# Running operations whose errors have a type of their own

Whoever knows the type of an operation's errors gets them back as they are. A classifier is
shown an error as the fault that it is, whatever its type.
-/

namespace CallGuard

/-- The types of errors, each of which is a fault when it is looked at from outside. -/
class ErrorType (ε : Type) where
  toFault : ε → Fault

instance : ErrorType Fault := ⟨id⟩

/-- An operation that fails with errors of a type of their own. -/
abbrev Work (ε α : Type) := Instant → Except ε α × Instant

namespace Work

variable {ε α β : Type}

def map (f : α → β) (work : Work ε α) : Work ε β := fun now =>
  let (result, finished) := work now
  (result.map f, finished)

/-- The work with the type of its errors forgotten. -/
def boxed [ErrorType ε] (work : Work ε α) : Operation α := fun now =>
  let (result, finished) := work now
  (result.mapError ErrorType.toFault, finished)

end Work

/-- Why guarded work has no value. -/
inductive Failed (ε : Type) where
  | opened (breaker : String)
  | tooManyProbes (breaker : String)
  | operation (error : ε)
deriving DecidableEq

namespace Failed

variable {ε : Type}

def ofRejection (breaker : String) : Rejection → Failed ε
  | .opened => opened breaker
  | .tooManyProbes => tooManyProbes breaker

def boxed [ErrorType ε] : Failed ε → CallError
  | opened breaker => .opened breaker
  | tooManyProbes breaker => .tooManyProbes breaker
  | operation error => .operation (ErrorType.toFault error)

end Failed

namespace Breaker

variable {ε α : Type} [ErrorType ε]

/-- Runs work if the breaker admits it, among other users. A disabled breaker does not look at
what comes of it. -/
def executeAmong (others : Bystanders) (b : Breaker) (now : Instant) (work : Work ε α) :
    Called (Failed ε) α :=
  match b with
  | disabled name =>
    let (result, finished) := work now
    let (b, meanwhile) := others now finished (disabled name)
    ⟨result.mapError .operation, true, finished, b, meanwhile⟩
  | stateful s classifier m =>
    match m.enter s now with
    | (.error reason, m, signals) =>
      ⟨.error (.ofRejection s.name reason), false, now, stateful s classifier m,
        notices s signals ++ [.rejected s.name reason]⟩
    | (.ok permit, m, signals) =>
      let (result, finished) := work now
      let (b, meanwhile) := others now finished (stateful s classifier m)
      let (_, b, more) := b.finish finished (some permit) (result.mapError ErrorType.toFault)
      ⟨result.mapError .operation, true, finished, b, notices s signals ++ meanwhile ++ more⟩

def execute (b : Breaker) (now : Instant) (work : Work ε α) : Called (Failed ε) α :=
  b.executeAmong Bystanders.none now work

end Breaker

end CallGuard
