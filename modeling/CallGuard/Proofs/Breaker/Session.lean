import CallGuard.Proofs.Breaker.Transitions
import Mathlib.Algebra.Group.Nat.Defs

/-!
# Sessions

A session is the life of one machine among its users. They start calls, end them with an outcome
or drop them, read the machine and reset it, in any order and at whatever instants their clocks
show. Beside the machine a session keeps what no machine knows: which calls are still in flight,
what became of every call, and how many generations there have been.
-/

namespace CallGuard

namespace Session

/-- An admitted call. Its epoch is the number of its generation, counted without ever wrapping
around. -/
structure Call where
  permit : Permit
  epoch : Nat
  isProbe : Bool
deriving DecidableEq

inductive Mark where
  | admitted
  | ended (outcome : Option Outcome)
deriving DecidableEq

/-- The event that a window counts for a mark; a call that is dropped leaves none. -/
def Mark.event? : Mark → Option Event
  | admitted => some .request
  | ended outcome => outcome.map Outcome.event

structure Entry where
  time : Instant
  epoch : Nat
  mark : Mark
deriving DecidableEq

/-- Calls are named by their number in the order in which they were started, refused ones
included. A call without an outcome is dropped. -/
inductive Action where
  | start
  | settle (call : Nat) (outcome : Option Outcome)
  | readState
  | readCounts
  | reset
deriving DecidableEq

structure Step where
  time : Instant
  action : Action
deriving DecidableEq

inductive Answer where
  | admitted
  | refused (reason : Rejection)
  | state (value : State)
  | counts (value : Counts)
  | silence
deriving DecidableEq

structure Report where
  answer : Answer
  signals : List Signal
deriving DecidableEq

end Session

structure Session where
  machine : Machine
  /-- How many generations there were before this one. -/
  epoch : Nat
  /-- The calls in the order in which they were started; one that is not in flight is absent. -/
  calls : List (Option Session.Call)
  log : List Session.Entry
deriving DecidableEq

namespace Session

def create (s : BreakerSettings) (created : Instant) : Session where
  machine := Machine.create s created
  epoch := 0
  calls := []
  log := []

def start (s : BreakerSettings) (now : Instant) (w : Session) : Session × Report :=
  match w.machine.enter s now with
  | (.ok permit, m, signals) =>
    let epoch := w.epoch + signals.length
    ({ machine := m
       epoch := epoch
       calls := w.calls ++ [some ⟨permit, epoch, m.state == .halfOpen⟩]
       log := w.log ++ [⟨now, epoch, .admitted⟩] },
      ⟨.admitted, signals⟩)
  | (.error reason, m, signals) =>
    ({ w with machine := m, epoch := w.epoch + signals.length, calls := w.calls ++ [none] },
      ⟨.refused reason, signals⟩)

def call? (w : Session) (k : Nat) : Option Call := (w.calls[k]?).join

/-- Ends a call; one that is not in flight cannot end. -/
def settle (s : BreakerSettings) (now : Instant) (k : Nat) (outcome : Option Outcome)
    (w : Session) : Session × Report :=
  match w.call? k with
  | none => (w, ⟨.silence, []⟩)
  | some c =>
    let (m, signals) := w.machine.settle s now c.permit outcome
    ({ machine := m
       epoch := w.epoch + signals.length
       calls := w.calls.set k none
       log := w.log ++ [⟨now, c.epoch, .ended outcome⟩] },
      ⟨.silence, signals⟩)

def readState (s : BreakerSettings) (now : Instant) (w : Session) : Session × Report :=
  let (state, m, signals) := w.machine.readState s now
  ({ w with machine := m, epoch := w.epoch + signals.length }, ⟨.state state, signals⟩)

def readCounts (s : BreakerSettings) (now : Instant) (w : Session) : Session × Report :=
  let (counts, m, signals) := w.machine.readCounts s now
  ({ w with machine := m, epoch := w.epoch + signals.length }, ⟨.counts counts, signals⟩)

/-- A reset begins a new generation also where it announces nothing. -/
def reset (s : BreakerSettings) (now : Instant) (w : Session) : Session × Report :=
  let (m, signals) := w.machine.reset s now
  ({ w with machine := m, epoch := w.epoch + 1 }, ⟨.silence, signals⟩)

def perform (s : BreakerSettings) (x : Step) (w : Session) : Session × Report :=
  match x.action with
  | .start => w.start s x.time
  | .settle k outcome => w.settle s x.time k outcome
  | .readState => w.readState s x.time
  | .readCounts => w.readCounts s x.time
  | .reset => w.reset s x.time

def after (s : BreakerSettings) (w : Session) (steps : List Step) : Session :=
  steps.foldl (fun w x => (w.perform s x).1) w

def reports (s : BreakerSettings) (w : Session) : List Step → List Report
  | [] => []
  | x :: rest => (w.perform s x).2 :: reports s (w.perform s x).1 rest

def run (s : BreakerSettings) (created : Instant) (steps : List Step) : Session :=
  (create s created).after s steps

theorem after_append (s : BreakerSettings) (w : Session) (earlier later : List Step) :
    w.after s (earlier ++ later) = (w.after s earlier).after s later :=
  List.foldl_append

theorem run_append_singleton (s : BreakerSettings) (created : Instant) (steps : List Step)
    (x : Step) :
    run s created (steps ++ [x]) = ((run s created steps).perform s x).1 := by
  simp [run, after]

theorem run_append (s : BreakerSettings) (created : Instant) (earlier later : List Step) :
    run s created (earlier ++ later) = (run s created earlier).after s later :=
  after_append s _ earlier later

theorem reports_append (s : BreakerSettings) (w : Session) (earlier later : List Step) :
    reports s w (earlier ++ later) =
      reports s w earlier ++ reports s (w.after s earlier) later := by
  induction earlier generalizing w with
  | nil => rfl
  | cons x rest ih => exact congrArg _ (ih _)

def announced (s : BreakerSettings) (created : Instant) (steps : List Step) : List Signal :=
  (reports s (create s created) steps).flatMap Report.signals

theorem announced_append_singleton (s : BreakerSettings) (created : Instant)
    (steps : List Step) (x : Step) :
    announced s created (steps ++ [x]) =
      announced s created steps ++ ((run s created steps).perform s x).2.signals := by
  simp [announced, reports_append, reports, run]

def InOrder (created : Instant) (steps : List Step) : Prop :=
  (created :: steps.map Step.time).Pairwise (· ≤ ·)

instance (created : Instant) (steps : List Step) : Decidable (InOrder created steps) :=
  inferInstanceAs (Decidable (List.Pairwise _ _))

def inFlight (p : Call → Bool) (w : Session) : Nat := w.calls.countP (Option.any p)

def marks (epoch : Nat) (p : Mark → Bool) (w : Session) : Nat :=
  w.log.countP fun e => e.epoch == epoch && p e.mark

end Session

end CallGuard
