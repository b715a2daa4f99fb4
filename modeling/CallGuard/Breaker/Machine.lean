import CallGuard.Breaker.State
import CallGuard.Counting.Window
import CallGuard.Settings.Basic

/-!
# The state machine of a breaker

A machine is closed, open or half-open. Every transition, every end of a fixed window and every
reset begins a new generation with empty counts; a call carries the generation it was admitted
in, and the end of a call of an earlier one changes nothing. Timeouts take effect when the
machine is next looked at.
-/

namespace CallGuard

structure Machine where
  state : State
  generation : UInt64
  counter : Window
  /-- The end of the fixed window or of the open period. -/
  expiry : Option Instant
  probesInFlight : Nat
  probeSuccesses : Nat
deriving DecidableEq

structure Permit where
  generation : UInt64
deriving DecidableEq

/-- What a machine announces in the course of a step. -/
inductive Signal where
  | windowElapsed
  | changed (source target : State)
deriving DecidableEq

namespace Machine

/-- When a phase that begins at `now` ends by itself, if it does. -/
def phaseEnd (s : BreakerSettings) (now : Instant) : State → Option Instant
  | .closed => if s.isRolling then none else s.closedWindow.bind now.after?
  | .opened => now.after? s.openTimeout
  | .halfOpen => none

def create (s : BreakerSettings) (now : Instant) : Machine where
  state := .closed
  generation := 0
  counter := Window.create s.closedWindow s.bucketPeriod now
  expiry := phaseEnd s now .closed
  probesInFlight := 0
  probeSuccesses := 0

def renew (s : BreakerSettings) (now : Instant) (state : State) (m : Machine) : Machine where
  state := state
  generation := m.generation + 1
  counter := m.counter.clear
  expiry := phaseEnd s now state
  probesInFlight := 0
  probeSuccesses := 0

/-- Changes the state and announces it; a machine that is there already stays as it is. -/
def moveTo (s : BreakerSettings) (now : Instant) (target : State) (m : Machine) :
    Machine × List Signal :=
  if m.state = target then (m, [])
  else (m.renew s now target, [.changed m.state target])

def isExpired (now : Instant) (m : Machine) : Bool := m.expiry.any (· ≤ now)

/-- Lets a timeout that has passed take effect. -/
def refresh (s : BreakerSettings) (now : Instant) (m : Machine) : Machine × List Signal :=
  if m.isExpired now then
    match m.state with
    | .closed => (m.renew s now .closed, [.windowElapsed])
    | .opened => m.moveTo s now .halfOpen
    | .halfOpen => (m, [])
  else (m, [])

/-- Whether a machine whose timeouts have taken effect refuses a call. -/
def rejection? (s : BreakerSettings) (m : Machine) : Option Rejection :=
  match m.state with
  | .closed => none
  | .opened => some .opened
  | .halfOpen =>
    if s.quota ≤ m.probesInFlight + m.probeSuccesses then some .tooManyProbes else none

/-- Counts an admitted call; in the half-open state it is a probe. -/
def count (now : Instant) (m : Machine) : Machine :=
  { m with
    counter := m.counter.record now .request
    probesInFlight := if m.state = .halfOpen then m.probesInFlight + 1 else m.probesInFlight }

def enter (s : BreakerSettings) (now : Instant) (m : Machine) :
    Except Rejection Permit × Machine × List Signal :=
  let (m, signals) := m.refresh s now
  match m.rejection? s with
  | some reason => (.error reason, m, signals)
  | none => (.ok ⟨m.generation⟩, m.count now, signals)

def release (m : Machine) : Machine :=
  if m.state = .halfOpen then { m with probesInFlight := m.probesInFlight - 1 } else m

/-- Books a success. Enough of them close a half-open machine. -/
def bookSuccess (s : BreakerSettings) (now : Instant) (m : Machine) : Machine × List Signal :=
  match m.state with
  | .closed => ({ m with counter := m.counter.record now .success }, [])
  | .halfOpen =>
    let m := { m with
      counter := m.counter.record now .success
      probeSuccesses := m.probeSuccesses + 1 }
    if s.quota ≤ m.probeSuccesses then m.moveTo s now .closed else (m, [])
  | .opened => (m, [])

/-- Books a failure. Enough of them in a row open a closed machine, one opens a half-open one. -/
def bookFailure (s : BreakerSettings) (now : Instant) (m : Machine) : Machine × List Signal :=
  match m.state with
  | .closed =>
    let (counts, counter) := (m.counter.record now .failure).read now
    let m := { m with counter := counter }
    if s.threshold ≤ counts.consecutiveFailures.toNat then m.moveTo s now .opened else (m, [])
  | .halfOpen => m.moveTo s now .opened
  | .opened => (m, [])

def book (s : BreakerSettings) (now : Instant) (outcome : Outcome) (m : Machine) :
    Machine × List Signal :=
  match outcome with
  | .success | .ignored => m.bookSuccess s now
  | .failure => m.bookFailure s now

/-- Ends an admitted call with an outcome, or without one if it was dropped. -/
def settle (s : BreakerSettings) (now : Instant) (permit : Permit) (outcome : Option Outcome)
    (m : Machine) : Machine × List Signal :=
  let (m, signals) := m.refresh s now
  if permit.generation = m.generation then
    match outcome with
    | none => (m.release, signals)
    | some o =>
      let (m, more) := m.release.book s now o
      (m, signals ++ more)
  else (m, signals)

def readState (s : BreakerSettings) (now : Instant) (m : Machine) :
    State × Machine × List Signal :=
  let (m, signals) := m.refresh s now
  (m.state, m, signals)

def readCounts (s : BreakerSettings) (now : Instant) (m : Machine) :
    Counts × Machine × List Signal :=
  let (m, signals) := m.refresh s now
  let (counts, counter) := m.counter.read now
  (counts, { m with counter := counter }, signals)

def reset (s : BreakerSettings) (now : Instant) (m : Machine) : Machine × List Signal :=
  if m.state = .closed then (m.renew s now .closed, []) else m.moveTo s now .closed

end Machine

end CallGuard
