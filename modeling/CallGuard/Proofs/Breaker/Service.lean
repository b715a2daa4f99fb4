import CallGuard.Breaker.Basic
import CallGuard.Proofs.Breaker.SessionRules
import Mathlib.Data.List.Induction

/-!
# Breakers in service

A breaker in service has many users. They start calls, bring them to an end, drop them, look at the
breaker and reset it, at whatever instants their clocks show, and all that it reports goes into one
journal. Behind an enabled breaker there is a session of its machine that goes through the same
steps; the breaker adds the name, the classifier and the notices.
-/

namespace CallGuard

namespace Service

/-- Calls are named by their number in the order in which they were started, refused ones
included. -/
inductive Use (α : Type) where
  | start
  | finish (call : Nat) (result : Except Fault α)
  | drop (call : Nat)
  | readState
  | readCounts
  | reset
deriving DecidableEq

structure Step (α : Type) where
  time : Instant
  use : Use α
deriving DecidableEq

inductive Answer (α : Type) where
  /-- The call was let through, and its operation is invoked. -/
  | begun
  | ended (result : Except CallError α)
  | state (value : State)
  | counts (value : Counts)
  | silence
deriving DecidableEq

structure Report (α : Type) where
  answer : Answer α
  notices : List Notice
deriving DecidableEq

end Service

structure Service where
  breaker : Breaker
  /-- The tickets of the calls that were started; one that is not in flight has none. -/
  tickets : List (Option Ticket)
  /-- The calls whose operation was invoked, as it happened. -/
  invoked : List Nat
  journal : List Notice

namespace Service

variable {α : Type}

def create (s : BreakerSettings) (classifier : Classifier) (created : Instant) : Service where
  breaker := (Breaker.create s classifier created).1
  tickets := []
  invoked := []
  journal := (Breaker.create s classifier created).2

def ticket? (v : Service) (k : Nat) : Option Ticket := (v.tickets[k]?).join

def start (now : Instant) (v : Service) : Service × Report α :=
  match v.breaker.start now with
  | (.ok ticket, b, notices) =>
    ({ v with
        breaker := b
        tickets := v.tickets ++ [some ticket]
        invoked := v.invoked ++ [v.tickets.length] },
      ⟨.begun, notices⟩)
  | (.error e, b, notices) =>
    ({ v with breaker := b, tickets := v.tickets ++ [none] }, ⟨.ended (.error e), notices⟩)

def finish (now : Instant) (k : Nat) (result : Except Fault α) (v : Service) :
    Service × Report α :=
  match v.ticket? k with
  | none => (v, ⟨.silence, []⟩)
  | some ticket =>
    let (answer, b, notices) := v.breaker.finish now ticket result
    ({ v with breaker := b, tickets := v.tickets.set k none }, ⟨.ended answer, notices⟩)

def drop (now : Instant) (k : Nat) (v : Service) : Service × Report α :=
  match v.ticket? k with
  | none => (v, ⟨.silence, []⟩)
  | some ticket =>
    let (b, notices) := v.breaker.drop now ticket
    ({ v with breaker := b, tickets := v.tickets.set k none }, ⟨.silence, notices⟩)

def readState (now : Instant) (v : Service) : Service × Report α :=
  let (state, b, notices) := v.breaker.state now
  ({ v with breaker := b }, ⟨.state state, notices⟩)

def readCounts (now : Instant) (v : Service) : Service × Report α :=
  let (counts, b, notices) := v.breaker.counts now
  ({ v with breaker := b }, ⟨.counts counts, notices⟩)

def reset (now : Instant) (v : Service) : Service × Report α :=
  let (b, notices) := v.breaker.reset now
  ({ v with breaker := b }, ⟨.silence, notices⟩)

def serve (x : Step α) (v : Service) : Service × Report α :=
  match x.use with
  | .start => v.start x.time
  | .finish k result => v.finish x.time k result
  | .drop k => v.drop x.time k
  | .readState => v.readState x.time
  | .readCounts => v.readCounts x.time
  | .reset => v.reset x.time

def perform (x : Step α) (v : Service) : Service × Report α :=
  let (next, report) := v.serve x
  ({ next with journal := next.journal ++ report.notices }, report)

def after (v : Service) (steps : List (Step α)) : Service :=
  steps.foldl (fun v x => (v.perform x).1) v

def reports (v : Service) : List (Step α) → List (Report α)
  | [] => []
  | x :: rest => (v.perform x).2 :: reports (v.perform x).1 rest

def run (s : BreakerSettings) (classifier : Classifier) (created : Instant)
    (steps : List (Step α)) : Service :=
  (create s classifier created).after steps

section Runs

variable (s : BreakerSettings) (classifier : Classifier) (created : Instant)

theorem run_append_singleton (steps : List (Step α)) (x : Step α) :
    run s classifier created (steps ++ [x]) =
      ((run s classifier created steps).perform x).1 := by
  simp [run, after]

end Runs

theorem start_journal (now : Instant) (v : Service) :
    (v.start (α := α) now).1.journal = v.journal := by
  unfold start
  split <;> rfl

theorem finish_journal (now : Instant) (k : Nat) (result : Except Fault α) (v : Service) :
    (v.finish now k result).1.journal = v.journal := by
  unfold finish
  split <;> rfl

theorem drop_journal (now : Instant) (k : Nat) (v : Service) :
    (v.drop (α := α) now k).1.journal = v.journal := by
  unfold drop
  split <;> rfl

theorem serve_journal (x : Step α) (v : Service) : (v.serve x).1.journal = v.journal := by
  obtain ⟨now, use⟩ := x
  cases use with
  | start => exact start_journal now v
  | finish k result => exact finish_journal now k result v
  | drop k => exact drop_journal now k v
  | readState | readCounts | reset => rfl

/-- What is reported is all that is written down. -/
theorem perform_journal (x : Step α) (v : Service) :
    (v.perform x).1.journal = v.journal ++ (v.perform x).2.notices :=
  congrArg (· ++ (v.serve x).2.notices) (serve_journal x v)

def Use.action (classifier : Classifier) : Use α → Session.Action
  | start => .start
  | finish k result => .settle k (some (Breaker.outcomeOf classifier result))
  | drop k => .settle k none
  | readState => .readState
  | readCounts => .readCounts
  | reset => .reset

def Step.behind (classifier : Classifier) (x : Step α) : Session.Step :=
  ⟨x.time, x.use.action classifier⟩

structure Backed (s : BreakerSettings) (classifier : Classifier) (v : Service) (w : Session) :
    Prop where
  breaker : v.breaker = .stateful s classifier w.machine
  tickets : v.tickets = w.calls.map (Option.map fun c => some c.permit)

inductive Renders (s : BreakerSettings) (classifier : Classifier) (w : Session) :
    Use α → Session.Report → Report α → Prop where
  | begun {signals : List Signal} :
      Renders s classifier w .start ⟨.admitted, signals⟩ ⟨.begun, Breaker.notices s signals⟩
  | refused {reason : Rejection} {signals : List Signal} :
      Renders s classifier w .start ⟨.refused reason, signals⟩
        ⟨.ended (.error (.ofRejection s.name reason)),
          Breaker.notices s signals ++ [.rejected s.name reason]⟩
  | finished {k : Nat} {c : Session.Call} {result : Except Fault α} {signals : List Signal} :
      w.call? k = some c →
      Renders s classifier w (.finish k result) ⟨.silence, signals⟩
        ⟨.ended (result.mapError .operation),
          .booked s.name (Breaker.outcomeOf classifier result) :: Breaker.notices s signals⟩
  | dropped {k : Nat} {c : Session.Call} {signals : List Signal} : w.call? k = some c →
      Renders s classifier w (.drop k) ⟨.silence, signals⟩ ⟨.silence, Breaker.notices s signals⟩
  | idle {k : Nat} {use : Use α} : (use = .drop k ∨ ∃ result, use = .finish k result) →
      w.call? k = none → Renders s classifier w use ⟨.silence, []⟩ ⟨.silence, []⟩
  | state {value : State} {signals : List Signal} :
      Renders s classifier w .readState ⟨.state value, signals⟩
        ⟨.state value, Breaker.notices s signals⟩
  | counts {value : Counts} {signals : List Signal} :
      Renders s classifier w .readCounts ⟨.counts value, signals⟩
        ⟨.counts value, Breaker.notices s signals⟩
  | reset {signals : List Signal} :
      Renders s classifier w .reset ⟨.silence, signals⟩ ⟨.silence, Breaker.notices s signals⟩

namespace Backed

variable {s : BreakerSettings} {classifier : Classifier} {now : Instant} {v : Service}
variable {w : Session}

theorem ticket?_eq (h : Backed s classifier v w) (k : Nat) :
    v.ticket? k = (w.call? k).map fun c => some c.permit := by
  unfold ticket? Session.call?
  rw [h.tickets, List.getElem?_map]
  rcases w.calls[k]? with _ | _ | c <;> rfl

theorem ended (h : Backed s classifier v w) (k : Nat) :
    v.tickets.set k none = (w.calls.set k none).map (Option.map fun c => some c.permit) := by
  rw [h.tickets, List.map_set]
  rfl

theorem start (h : Backed s classifier v w) :
    Backed s classifier (v.start (α := α) now).1 (w.start s now).1 ∧
      Renders s classifier w .start (w.start s now).2 (v.start (α := α) now).2 := by
  have hTickets := h.tickets
  unfold Service.start Session.start
  rw [h.breaker]
  simp only [Breaker.start]
  rcases w.machine.enter s now with ⟨reason | permit, m, signals⟩
  · exact ⟨⟨rfl, by simp [hTickets]⟩, .refused⟩
  · exact ⟨⟨rfl, by simp [hTickets]⟩, .begun⟩

theorem finish (h : Backed s classifier v w) (k : Nat) (result : Except Fault α) :
    Backed s classifier (v.finish now k result).1
        (w.settle s now k (some (Breaker.outcomeOf classifier result))).1 ∧
      Renders s classifier w (.finish k result)
        (w.settle s now k (some (Breaker.outcomeOf classifier result))).2
        (v.finish now k result).2 := by
  have hTicket := h.ticket?_eq k
  unfold Service.finish Session.settle
  cases hCall : w.call? k with
  | none =>
    rw [hCall] at hTicket
    rw [hTicket]
    exact ⟨h, .idle (.inr ⟨result, rfl⟩) hCall⟩
  | some c =>
    rw [hCall] at hTicket
    rw [hTicket, h.breaker]
    exact ⟨⟨rfl, h.ended k⟩, .finished hCall⟩

theorem drop (h : Backed s classifier v w) (k : Nat) :
    Backed s classifier (v.drop (α := α) now k).1 (w.settle s now k none).1 ∧
      Renders s classifier w (.drop k) (w.settle s now k none).2 (v.drop (α := α) now k).2 := by
  have hTicket := h.ticket?_eq k
  unfold Service.drop Session.settle
  cases hCall : w.call? k with
  | none =>
    rw [hCall] at hTicket
    rw [hTicket]
    exact ⟨h, .idle (.inl rfl) hCall⟩
  | some c =>
    rw [hCall] at hTicket
    rw [hTicket, h.breaker]
    exact ⟨⟨rfl, h.ended k⟩, .dropped hCall⟩

theorem serve (h : Backed s classifier v w) (x : Step α) :
    Backed s classifier (v.serve x).1 (w.perform s (x.behind classifier)).1 ∧
      Renders s classifier w x.use (w.perform s (x.behind classifier)).2 (v.serve x).2 := by
  obtain ⟨now, use⟩ := x
  cases use with
  | start => exact h.start
  | finish k result => exact h.finish k result
  | drop k => exact h.drop k
  | readState =>
    simp only [Service.serve, Service.readState, h.breaker]
    exact ⟨⟨rfl, h.tickets⟩, .state⟩
  | readCounts =>
    simp only [Service.serve, Service.readCounts, h.breaker]
    exact ⟨⟨rfl, h.tickets⟩, .counts⟩
  | reset =>
    simp only [Service.serve, Service.reset, h.breaker]
    exact ⟨⟨rfl, h.tickets⟩, .reset⟩

/-- A breaker and the session behind it stay together, and the one shows what the other does. -/
theorem perform (h : Backed s classifier v w) (x : Step α) :
    Backed s classifier (v.perform x).1 (w.perform s (x.behind classifier)).1 ∧
      Renders s classifier w x.use (w.perform s (x.behind classifier)).2 (v.perform x).2 := by
  obtain ⟨hNext, hRenders⟩ := h.serve x
  exact ⟨⟨hNext.breaker, hNext.tickets⟩, hRenders⟩

end Backed

section Enabled

variable {s : BreakerSettings} (classifier : Classifier) (created : Instant)

theorem create_backed (hEnabled : s.enabled = true) :
    Backed s classifier (create s classifier created) (Session.create s created) := by
  constructor
  · simp only [create, Breaker.create, hEnabled]
    rfl
  · rfl

theorem run_backed (hEnabled : s.enabled = true) (steps : List (Step α)) :
    Backed s classifier (run s classifier created steps)
      (Session.run s created (steps.map (Step.behind classifier))) := by
  induction steps using List.reverseRecOn with
  | nil => exact create_backed classifier created hEnabled
  | append_singleton steps x ih =>
    rw [run_append_singleton, List.map_append, List.map_singleton, Session.run_append_singleton]
    exact (ih.perform x).1

end Enabled

section Disabled

variable {s : BreakerSettings} (classifier : Classifier) (created : Instant)

theorem perform_disabled {v : Service} {name : String} (hDisabled : v.breaker = .disabled name)
    (x : Step α) :
    (v.perform x).1.breaker = .disabled name ∧ (v.perform x).2.notices = [] := by
  obtain ⟨now, use⟩ := x
  cases use with
  | start => simp [perform, serve, start, hDisabled, Breaker.start]
  | finish k | drop k =>
    simp only [perform, serve, finish, drop]
    cases v.ticket? k <;> simp [hDisabled, Breaker.finish, Breaker.drop]
  | readState | readCounts | reset =>
    simp [perform, serve, readState, readCounts, reset, hDisabled, Breaker.state,
      Breaker.counts, Breaker.reset]

theorem run_disabled (hDisabled : s.enabled = false) (steps : List (Step α)) :
    (run s classifier created steps).breaker = .disabled s.name ∧
      (run s classifier created steps).journal = [.disabled s.name] := by
  induction steps using List.reverseRecOn with
  | nil => simp [run, after, create, Breaker.create, hDisabled]
  | append_singleton steps x ih =>
    obtain ⟨hBreaker, hNotices⟩ := perform_disabled ih.1 x
    rw [run_append_singleton, perform_journal, hNotices, List.append_nil]
    exact ⟨hBreaker, ih.2⟩

end Disabled

end Service

end CallGuard
