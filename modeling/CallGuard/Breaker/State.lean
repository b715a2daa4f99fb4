import CallGuard.Counting.Counts

/-!
# States and outcomes

The three states of a breaker, how a finished call is booked, why a call is refused, and what
a breaker announces while it runs.
-/

namespace CallGuard

inductive State where
  | closed
  | opened
  | halfOpen
deriving DecidableEq

namespace State

def name : State → String
  | closed => "closed"
  | opened => "open"
  | halfOpen => "half_open"

/-- The spelling in descriptions of a breaker. -/
def label : State → String
  | closed => "Closed"
  | opened => "Open"
  | halfOpen => "HalfOpen"

def gauge : State → Nat
  | closed => 0
  | halfOpen => 1
  | opened => 2

end State

/-- How a finished call is booked. An ignored call failed in a way that was expected. -/
inductive Outcome where
  | success
  | ignored
  | failure
deriving DecidableEq

def Outcome.name : Outcome → String
  | success => "success"
  | ignored => "ignored"
  | failure => "failure"

def Outcome.event : Outcome → Event
  | success | ignored => .success
  | failure => .failure

inductive Rejection where
  | opened
  | tooManyProbes
deriving DecidableEq

def Rejection.name : Rejection → String
  | opened => "open"
  | tooManyProbes => "too_many_probes"

structure Change where
  breaker : String
  source : State
  target : State
deriving DecidableEq

end CallGuard
