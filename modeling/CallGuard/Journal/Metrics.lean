import CallGuard.Journal.Notice
import CallGuard.Keyed

/-!
# Metrics

Counters and gauges as a view of the journal. A counter is the number of notices that concern
it, a gauge shows the last value it was set to, and a series that nothing has touched is absent.
-/

namespace CallGuard

/-- The name and the labels of a counter or gauge. -/
inductive Series where
  | transitions (breaker : String) (source target : State)
  | state (breaker : String)
  | rejections (breaker : String) (reason : Rejection)
  | calls (breaker : String) (outcome : Outcome)
  | retries (policy : String)
deriving DecidableEq

namespace Series

def labelled (name : String) (labels : List (String × String)) : String :=
  name ++ "\x7b" ++ ",".intercalate (labels.map fun l => l.1 ++ "=" ++ l.2) ++ "\x7d"

def text : Series → String
  | transitions breaker source target =>
    labelled "envelope_breaker_transitions_total"
      [("breaker", breaker), ("from", source.name), ("to", target.name)]
  | state breaker => labelled "envelope_breaker_state" [("breaker", breaker)]
  | rejections breaker reason =>
    labelled "envelope_breaker_rejections_total" [("breaker", breaker), ("reason", reason.name)]
  | calls breaker outcome =>
    labelled "envelope_breaker_calls_total" [("breaker", breaker), ("outcome", outcome.name)]
  | retries policy => labelled "envelope_retry_attempts_total" [("policy", policy)]

end Series

/-- The series that have been touched, each once. -/
structure Metrics where
  entries : List (Series × Nat)

namespace Metrics

def empty : Metrics := ⟨[]⟩

def get? (m : Metrics) (s : Series) : Option Nat := m.entries.lookup s

def put (m : Metrics) (s : Series) (value : Nat) : Metrics := ⟨Keyed.put s value m.entries⟩

def increment (m : Metrics) (s : Series) : Metrics := m.put s ((m.get? s).getD 0 + 1)

theorem get?_put (m : Metrics) (s t : Series) (value : Nat) :
    (m.put s value).get? t = if t = s then some value else m.get? t :=
  Keyed.lookup_put s t value m.entries

def record (m : Metrics) : Notice → Metrics
  | .created s => m.put (.state s.name) State.closed.gauge
  | .changed c =>
    (m.increment (.transitions c.breaker c.source c.target)).put (.state c.breaker) c.target.gauge
  | .rejected breaker reason => m.increment (.rejections breaker reason)
  | .booked breaker outcome => m.increment (.calls breaker outcome)
  | .retrying retrier _ _ => m.increment (.retries retrier)
  | _ => m

def ofNotices (notices : List Notice) : Metrics := notices.foldl record empty

end Metrics

end CallGuard
