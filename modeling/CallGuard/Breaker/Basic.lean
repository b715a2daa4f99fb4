import CallGuard.Breaker.Machine
import CallGuard.Journal.Notice
import CallGuard.Text.Quoted

/-!
# Breakers

A breaker is a machine with its settings and a classifier, or, if it is disabled, nothing but a
name: then every call goes through. Starting, finishing and dropping a call are separate steps,
so calls may overlap; running an operation from start to finish is one of them after the other.
-/

namespace CallGuard

/-- Why a guarded call has no value. -/
inductive CallError where
  | opened (breaker : String)
  | tooManyProbes (breaker : String)
  | operation (fault : Fault)
deriving DecidableEq

namespace CallError

def text : CallError → String
  | opened breaker => "circuit breaker '" ++ breaker ++ "' is open"
  | tooManyProbes breaker =>
    "circuit breaker '" ++ breaker ++ "' is half-open and has no probe slots left"
  | operation fault => fault.text

def ofRejection (breaker : String) : Rejection → CallError
  | .opened => opened breaker
  | .tooManyProbes => tooManyProbes breaker

def isRejected : CallError → Bool
  | opened _ | tooManyProbes _ => true
  | operation _ => false

def operation? : CallError → Option Fault
  | operation fault => some fault
  | _ => none

/-- A refused or failed call is itself an error that no classifier knows and that has no cause:
the fault of the operation only lends its text. -/
def toFault (e : CallError) : Fault := Fault.plain e.text

end CallError

inductive Breaker where
  | disabled (name : String)
  | stateful (settings : BreakerSettings) (classifier : Classifier) (machine : Machine)

/-- The right to finish or drop one call; calls through a disabled breaker need no permit. -/
abbrev Ticket := Option Permit

namespace Breaker

def create (s : BreakerSettings) (classifier : Classifier) (now : Instant) :
    Breaker × List Notice :=
  if s.enabled then (stateful s classifier (Machine.create s now), [.created s])
  else (disabled s.name, [.disabled s.name])

def name : Breaker → String
  | disabled name => name
  | stateful s _ _ => s.name

def isEnabled : Breaker → Bool
  | disabled _ => false
  | stateful _ _ _ => true

def notice (breaker : String) : Signal → Notice
  | .windowElapsed => .windowElapsed breaker
  | .changed source target => .changed ⟨breaker, source, target⟩

def notices (s : BreakerSettings) (signals : List Signal) : List Notice :=
  signals.map (notice s.name)

def start (now : Instant) : Breaker → Except CallError Ticket × Breaker × List Notice
  | disabled name => (.ok none, disabled name, [])
  | stateful s classifier m =>
    match m.enter s now with
    | (.ok permit, m, signals) => (.ok (some permit), stateful s classifier m, notices s signals)
    | (.error reason, m, signals) =>
      (.error (.ofRejection s.name reason), stateful s classifier m,
        notices s signals ++ [.rejected s.name reason])

def outcomeOf {α : Type} (classifier : Classifier) : Except Fault α → Outcome
  | .ok _ => .success
  | .error fault => if classifier fault = .expected then .ignored else .failure

def finish {α : Type} (now : Instant) (ticket : Ticket) (result : Except Fault α) :
    Breaker → Except CallError α × Breaker × List Notice
  | disabled name => (result.mapError .operation, disabled name, [])
  | stateful s classifier m =>
    match ticket with
    | none => (result.mapError .operation, stateful s classifier m, [])
    | some permit =>
      let outcome := outcomeOf classifier result
      let (m, signals) := m.settle s now permit (some outcome)
      (result.mapError .operation, stateful s classifier m,
        .booked s.name outcome :: notices s signals)

@[simp] theorem finish_result {α : Type} (now : Instant) (ticket : Ticket)
    (result : Except Fault α) (b : Breaker) :
    (b.finish now ticket result).1 = result.mapError .operation := by
  cases b with
  | disabled => rfl
  | stateful => cases ticket <;> rfl

def drop (now : Instant) (ticket : Ticket) : Breaker → Breaker × List Notice
  | disabled name => (disabled name, [])
  | stateful s classifier m =>
    match ticket with
    | none => (stateful s classifier m, [])
    | some permit =>
      let (m, signals) := m.settle s now permit none
      (stateful s classifier m, notices s signals)

/-- The state; a disabled breaker is always closed. -/
def state (now : Instant) : Breaker → State × Breaker × List Notice
  | disabled name => (.closed, disabled name, [])
  | stateful s classifier m =>
    let (state, m, signals) := m.readState s now
    (state, stateful s classifier m, notices s signals)

/-- The counts; a disabled breaker counts nothing. -/
def counts (now : Instant) : Breaker → Counts × Breaker × List Notice
  | disabled name => (Counts.zero, disabled name, [])
  | stateful s classifier m =>
    let (counts, m, signals) := m.readCounts s now
    (counts, stateful s classifier m, notices s signals)

def reset (now : Instant) : Breaker → Breaker × List Notice
  | disabled name => (disabled name, [])
  | stateful s classifier m =>
    let (m, signals) := m.reset s now
    (stateful s classifier m, notices s signals)

/-- The state as it is stored, whatever time it is. -/
def storedLabel : Breaker → String
  | disabled _ => "Disabled"
  | stateful _ _ m => m.state.label

def describe : Breaker → String
  | disabled name => "Disabled(PassThroughBreaker \x7b name: " ++ Text.quoted name ++ " \x7d)"
  | stateful s _ m =>
    "Stateful(StatefulBreaker \x7b name: " ++ Text.quoted s.name
      ++ ", state: " ++ m.state.label
      ++ ", failure_threshold: " ++ toString s.threshold
      ++ ", open_timeout: " ++ s.openTimeout.text
      ++ ", half_open_quota: " ++ toString s.quota ++ " \x7d)"

end Breaker

end CallGuard
