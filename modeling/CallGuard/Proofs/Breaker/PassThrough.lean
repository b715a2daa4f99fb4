import CallGuard.Breaker.Call
import CallGuard.Proofs.Breaker.TransitionRecord

/-!
# Enabled breakers that pass everything on

As long as calls fail only in ways that are expected, an enabled breaker stays closed. Its users
then get what they would get from a disabled one, whatever they do and whenever they do it. Both
breakers are compared with a third party that knows nothing but which calls are in flight.
-/

namespace CallGuard

namespace Machine

variable (s : BreakerSettings) (now : Instant) {m : Machine}

theorem refresh_unmoved (hClosed : m.state = .closed) :
    (m.refresh s now).1.state = .closed ∧
      Notice.changes (Breaker.notices s (m.refresh s now).2) = [] := by
  rw [refresh_of_closed s now hClosed]
  split
  · exact ⟨rfl, rfl⟩
  · exact ⟨hClosed, rfl⟩

theorem book_of_closed (hClosed : m.state = .closed) {o : Outcome} (hOutcome : o ≠ .failure) :
    m.book s now o = ({ m with counter := m.counter.record now .success }, []) := by
  cases o with
  | success | ignored => simp [book, bookSuccess, hClosed]
  | failure => exact absurd rfl hOutcome

theorem settle_unmoved (hClosed : m.state = .closed) (permit : Permit)
    {outcome : Option Outcome} (hOutcome : outcome ≠ some .failure) :
    (m.settle s now permit outcome).1.state = .closed ∧
      Notice.changes (Breaker.notices s (m.settle s now permit outcome).2) = [] := by
  obtain ⟨hState, hChanges⟩ := refresh_unmoved s now hClosed
  simp only [settle]
  by_cases hCurrent : permit.generation = (m.refresh s now).1.generation
  · rw [if_pos hCurrent]
    have hReleased := (release_state (m.refresh s now).1).trans hState
    cases outcome with
    | none => exact ⟨hReleased, hChanges⟩
    | some o =>
      simp only [book_of_closed s now hReleased fun hFailure => hOutcome (congrArg some hFailure)]
      rw [List.append_nil]
      exact ⟨hReleased, hChanges⟩
  · rw [if_neg hCurrent]
    exact ⟨hState, hChanges⟩

end Machine

namespace Breaker

/-- A breaker that holds nothing against a call: it is closed, or disabled altogether. -/
inductive LetsThrough (s : BreakerSettings) (classifier : Classifier) : Breaker → Prop where
  | disabled : LetsThrough s classifier (.disabled s.name)
  | closed {m : Machine} : m.state = .closed →
      LetsThrough s classifier (.stateful s classifier m)

structure GoesOn (s : BreakerSettings) (classifier : Classifier) (b : Breaker)
    (notices : List Notice) : Prop where
  letsThrough : LetsThrough s classifier b
  unchanged : Notice.changes notices = []

namespace LetsThrough

variable {s : BreakerSettings} {classifier : Classifier} {now : Instant} {b : Breaker}

theorem start (hLets : LetsThrough s classifier b) (now : Instant) :
    ∃ ticket b' notices, b.start now = (.ok ticket, b', notices) ∧
      GoesOn s classifier b' notices := by
  cases hLets with
  | disabled => exact ⟨none, _, _, rfl, .disabled, rfl⟩
  | @closed m hClosed =>
    obtain ⟨hState, hChanges⟩ := Machine.refresh_unmoved s now hClosed
    have hAdmitted : (m.refresh s now).1.rejection? s = none := by
      simp [Machine.rejection?, hState]
    simp only [Breaker.start, Machine.enter, hAdmitted]
    exact ⟨_, _, _, rfl, .closed hState, hChanges⟩

theorem finish {α : Type} {result : Except Fault α} (hLets : LetsThrough s classifier b)
    (ticket : Ticket) (hExpected : outcomeOf classifier result ≠ .failure) :
    GoesOn s classifier (b.finish now ticket result).2.1 (b.finish now ticket result).2.2 := by
  cases hLets with
  | disabled => exact ⟨.disabled, rfl⟩
  | closed hClosed =>
    cases ticket with
    | none => exact ⟨.closed hClosed, rfl⟩
    | some permit =>
      obtain ⟨hState, hChanges⟩ := Machine.settle_unmoved s now hClosed permit
        fun hFailure => hExpected (Option.some.inj hFailure)
      exact ⟨.closed hState, hChanges⟩

theorem drop (hLets : LetsThrough s classifier b) (ticket : Ticket) :
    GoesOn s classifier (b.drop now ticket).1 (b.drop now ticket).2 := by
  cases hLets with
  | disabled => exact ⟨.disabled, rfl⟩
  | closed hClosed =>
    cases ticket with
    | none => exact ⟨.closed hClosed, rfl⟩
    | some permit =>
      obtain ⟨hState, hChanges⟩ := Machine.settle_unmoved s now hClosed permit
        (nofun : (none : Option Outcome) ≠ some .failure)
      exact ⟨.closed hState, hChanges⟩

theorem state (hLets : LetsThrough s classifier b) (now : Instant) :
    (b.state now).1 = .closed ∧
      GoesOn s classifier (b.state now).2.1 (b.state now).2.2 := by
  cases hLets with
  | disabled => exact ⟨rfl, .disabled, rfl⟩
  | closed hClosed =>
    obtain ⟨hState, hChanges⟩ := Machine.refresh_unmoved s now hClosed
    exact ⟨hState, .closed hState, hChanges⟩

theorem counts (hLets : LetsThrough s classifier b) :
    GoesOn s classifier (b.counts now).2.1 (b.counts now).2.2 := by
  cases hLets with
  | disabled => exact ⟨.disabled, rfl⟩
  | closed hClosed =>
    obtain ⟨hState, hChanges⟩ := Machine.refresh_unmoved s now hClosed
    exact ⟨.closed hState, hChanges⟩

theorem reset (hLets : LetsThrough s classifier b) :
    GoesOn s classifier (b.reset now).1 (b.reset now).2 := by
  cases hLets with
  | disabled => exact ⟨.disabled, rfl⟩
  | closed hClosed =>
    simp only [Breaker.reset, Machine.reset, hClosed]
    exact ⟨.closed rfl, rfl⟩

/-- An operation is invoked, and what it says is handed on, whatever others do meanwhile. -/
theorem callAmong {α : Type} (hLets : LetsThrough s classifier b) (others : Bystanders)
    (now : Instant) (operation : Operation α) :
    (b.callAmong others now operation).invoked = true ∧
      (b.callAmong others now operation).result = (operation now).1.mapError .operation := by
  obtain ⟨ticket, b', notices, hStart, -⟩ := hLets.start now
  simp only [Breaker.callAmong, hStart, finish_result, and_self]

end LetsThrough

end Breaker

namespace Service

variable {α : Type}

/-- For each call that was started, whether it is in flight. -/
def flights (v : Service) : List Bool := v.tickets.map Option.isSome

/-- What becomes of the calls in flight, and what a user is told, where every call goes through. -/
def letThrough (flights : List Bool) : Use α → List Bool × Answer α
  | .start => (flights ++ [true], .begun)
  | .finish k result =>
    (flights.set k false,
      if flights[k]? = some true then .ended (result.mapError .operation) else .silence)
  | .drop k => (flights.set k false, .silence)
  | .readState => (flights, .state .closed)
  | .readCounts => (flights, .counts .zero)
  | .reset => (flights, .silence)

def letAllThrough (flights : List Bool) : List (Use α) → List (Answer α)
  | [] => []
  | use :: rest => (letThrough flights use).2 :: letAllThrough (letThrough flights use).1 rest

def Answer.discreet : Answer α → Answer α
  | counts _ => counts .zero
  | answer => answer

def Use.isStart : Use α → Bool
  | start => true
  | _ => false

def Use.isExpected (classifier : Classifier) : Use α → Bool
  | finish _ (.error fault) => classifier fault == .expected
  | _ => true

theorem Use.outcomeOf_ne_failure {classifier : Classifier} {k : Nat} {result : Except Fault α}
    (hExpected : (Use.finish k result).isExpected classifier = true) :
    Breaker.outcomeOf classifier result ≠ .failure := by
  cases result with
  | ok => nofun
  | error fault =>
    have hFault : classifier fault = .expected := by simpa [isExpected] using hExpected
    simp [Breaker.outcomeOf, hFault]

theorem flights_getElem? (v : Service) (k : Nat) :
    v.flights[k]? = some true ↔ (v.ticket? k).isSome := by
  unfold flights ticket?
  rw [List.getElem?_map]
  rcases v.tickets[k]? with _ | _ | ticket <;> simp

theorem flights_set (v : Service) {k : Nat} (hNone : v.ticket? k = none) :
    v.flights.set k false = v.flights := by
  have hIdle := (flights_getElem? v k).not.mpr (by simp [hNone])
  cases hFlight : v.flights[k]? with
  | none => exact List.set_eq_of_length_le (List.getElem?_eq_none_iff.mp hFlight)
  | some flight =>
    obtain rfl : flight = false := by simpa [hFlight] using hIdle
    obtain ⟨hLength, hValue⟩ := List.getElem?_eq_some_iff.mp hFlight
    rw [← hValue]
    exact List.set_getElem_self hLength

structure Follows (s : BreakerSettings) (classifier : Classifier) (use : Use α) (v v' : Service)
    (report : Report α) : Prop where
  goesOn : Breaker.GoesOn s classifier v'.breaker report.notices
  flights : v'.flights = (letThrough v.flights use).1
  answer : report.answer.discreet = (letThrough v.flights use).2
  invoked : v'.invoked = v.invoked ++ if use.isStart then [v.flights.length] else []

section Steps

variable {s : BreakerSettings} {classifier : Classifier} {now : Instant} {v : Service}

theorem start_follows (hLets : v.breaker.LetsThrough s classifier) :
    Follows s classifier (.start : Use α) v (v.start (α := α) now).1 (v.start now).2 := by
  obtain ⟨ticket, b, notices, hStart, hGoes⟩ := hLets.start now
  simp only [start, hStart]
  constructor
  · exact hGoes
  · simp [flights, letThrough]
  · rfl
  · simp [flights, Use.isStart]

theorem finish_follows (hLets : v.breaker.LetsThrough s classifier) {k : Nat}
    {result : Except Fault α} (hExpected : (Use.finish k result).isExpected classifier = true) :
    Follows s classifier (.finish k result) v (v.finish now k result).1
      (v.finish now k result).2 := by
  have hFlight := flights_getElem? v k
  unfold finish
  cases hTicket : v.ticket? k with
  | none =>
    constructor
    · exact ⟨hLets, rfl⟩
    · exact (flights_set v hTicket).symm
    · simp [letThrough, hFlight, hTicket, Answer.discreet]
    · exact (List.append_nil _).symm
  | some ticket =>
    constructor
    · exact hLets.finish ticket (Use.outcomeOf_ne_failure hExpected)
    · simp [flights, letThrough, List.map_set]
    · simp [letThrough, hFlight, hTicket, Answer.discreet]
    · exact (List.append_nil _).symm

theorem drop_follows (hLets : v.breaker.LetsThrough s classifier) (k : Nat) :
    Follows s classifier (.drop k : Use α) v (v.drop (α := α) now k).1 (v.drop now k).2 := by
  unfold drop
  cases hTicket : v.ticket? k with
  | none =>
    constructor
    · exact ⟨hLets, rfl⟩
    · exact (flights_set v hTicket).symm
    · rfl
    · exact (List.append_nil _).symm
  | some ticket =>
    constructor
    · exact hLets.drop ticket
    · simp [flights, letThrough, List.map_set]
    · rfl
    · exact (List.append_nil _).symm

theorem serve_follows (hLets : v.breaker.LetsThrough s classifier) {x : Step α}
    (hExpected : x.use.isExpected classifier = true) :
    Follows s classifier x.use v (v.serve x).1 (v.serve x).2 := by
  obtain ⟨now, use⟩ := x
  cases use with
  | start => exact start_follows hLets
  | finish k result => exact finish_follows hLets hExpected
  | drop k => exact drop_follows hLets k
  | readState =>
    obtain ⟨hState, hGoes⟩ := hLets.state now
    exact ⟨hGoes, rfl, congrArg Answer.state hState, (List.append_nil _).symm⟩
  | readCounts => exact ⟨hLets.counts, rfl, rfl, (List.append_nil _).symm⟩
  | reset => exact ⟨hLets.reset, rfl, rfl, (List.append_nil _).symm⟩

theorem perform_follows (hLets : v.breaker.LetsThrough s classifier) {x : Step α}
    (hExpected : x.use.isExpected classifier = true) :
    Follows s classifier x.use v (v.perform x).1 (v.perform x).2 := by
  obtain ⟨hGoes, hFlights, hAnswer, hInvoked⟩ := serve_follows hLets hExpected
  exact ⟨hGoes, hFlights, hAnswer, hInvoked⟩

/-- What the users are told in the course of a run depends only on which calls are in flight. -/
theorem answers_reports {steps : List (Step α)} (hLets : v.breaker.LetsThrough s classifier)
    (hExpected : ∀ x ∈ steps, x.use.isExpected classifier = true) :
    (v.reports steps).map (fun report => report.answer.discreet) =
      letAllThrough v.flights (steps.map Step.use) := by
  induction steps generalizing v with
  | nil => rfl
  | cons x rest ih =>
    obtain ⟨hNow, hRest⟩ := List.forall_mem_cons.mp hExpected
    have hFollows := perform_follows hLets hNow
    rw [reports, List.map_cons, hFollows.answer, ih hFollows.goesOn.letsThrough hRest,
      hFollows.flights]
    rfl

end Steps

theorem length_letThrough (flights : List Bool) (use : Use α) :
    (letThrough flights use).1.length = flights.length + if use.isStart then 1 else 0 := by
  cases use <;> simp [letThrough, Use.isStart]

structure Passed (s : BreakerSettings) (classifier : Classifier) (started : Nat) (v : Service) :
    Prop where
  letsThrough : v.breaker.LetsThrough s classifier
  flights : v.flights.length = started
  invoked : v.invoked = List.range started
  unchanged : v.record = []

section Runs

variable {s : BreakerSettings} {classifier : Classifier}

theorem Passed.perform {started : Nat} {v : Service} (hPassed : Passed s classifier started v)
    {x : Step α} (hExpected : x.use.isExpected classifier = true) :
    Passed s classifier (started + if x.use.isStart then 1 else 0) (v.perform x).1 := by
  have hFollows := perform_follows hPassed.letsThrough hExpected
  constructor
  · exact hFollows.goesOn.letsThrough
  · rw [hFollows.flights, length_letThrough, hPassed.flights]
  · rw [hFollows.invoked, hPassed.invoked, hPassed.flights]
    cases x.use.isStart with
    | false => exact List.append_nil _
    | true => exact List.range_succ.symm
  · rw [record, perform_journal, Notice.changes_append, hFollows.goesOn.unchanged,
      List.append_nil]
    exact hPassed.unchanged

theorem create_passed (s : BreakerSettings) (classifier : Classifier) (created : Instant) :
    Passed s classifier 0 (create s classifier created) := by
  unfold create Breaker.create
  split
  · exact ⟨.closed rfl, rfl, rfl, rfl⟩
  · exact ⟨.disabled, rfl, rfl, rfl⟩

theorem run_passed (s : BreakerSettings) {classifier : Classifier} (created : Instant)
    (steps : List (Step α)) (hExpected : ∀ x ∈ steps, x.use.isExpected classifier = true) :
    Passed s classifier (steps.countP fun x => x.use.isStart)
      (run s classifier created steps) := by
  induction steps using List.reverseRecOn with
  | nil => exact create_passed s classifier created
  | append_singleton steps x ih =>
    obtain ⟨hEarlier, hLast⟩ := List.forall_mem_append.mp hExpected
    rw [run_append_singleton, List.countP_append, List.countP_singleton]
    exact (ih hEarlier).perform (hLast x (List.mem_singleton_self x))

end Runs

theorem closed_of_mem_letAllThrough {flights : List Bool} {uses : List (Use α)} {value : State}
    (hMem : .state value ∈ letAllThrough flights uses) : value = .closed := by
  induction uses generalizing flights with
  | nil => nomatch hMem
  | cons use rest ih =>
    rcases List.mem_cons.mp hMem with hNow | hRest
    · cases use with
      | finish k result =>
        simp only [letThrough] at hNow
        split at hNow <;> nomatch hNow
      | readState => exact Answer.state.inj hNow
      | start | drop | readCounts | reset => nomatch hNow
    · exact ih hRest

structure PassesThrough (s : BreakerSettings) (classifier : Classifier) (created : Instant)
    (steps : List (Step α)) : Prop where
  invoked : (run s classifier created steps).invoked =
    List.range (steps.countP fun x => x.use.isStart)
  answers :
    ((create s classifier created).reports steps).map (fun report => report.answer.discreet) =
      ((create { s with enabled := false } classifier created).reports steps).map
        (fun report => report.answer.discreet)
  closed : ∀ report ∈ (create s classifier created).reports steps, ∀ value,
    report.answer = .state value → value = .closed
  unchanged : (run s classifier created steps).record = []
  calls : ∀ (β : Type) (others others' : Bystanders) (now : Instant) (operation : Operation β),
    let called := (run s classifier created steps).breaker.callAmong others now operation
    let called' := (run { s with enabled := false } classifier created steps).breaker.callAmong
      others' now operation
    called.invoked = true ∧ called.result = called'.result

/-- Without a failure that counts, a breaker is as good as disabled. -/
theorem passes_through (s : BreakerSettings) (classifier : Classifier) (created : Instant)
    (steps : List (Step α)) (hExpected : ∀ x ∈ steps, x.use.isExpected classifier = true) :
    PassesThrough s classifier created steps := by
  -- What is known of the breaker is known of it disabled as well, so both follow the same rules.
  have hPassed := run_passed s created steps hExpected
  have hAnswers := answers_reports (create_passed s classifier created).letsThrough hExpected
  constructor
  · exact hPassed.invoked
  · have hDisabled := create_passed { s with enabled := false } classifier created
    rw [hAnswers, answers_reports hDisabled.letsThrough hExpected]
    -- Neither has a call in flight when it is created.
    rfl
  · intro report hMem value hAnswer
    have hDiscreet := List.mem_map_of_mem (f := fun report => report.answer.discreet) hMem
    rw [hAnswers, hAnswer] at hDiscreet
    exact closed_of_mem_letAllThrough hDiscreet
  · exact hPassed.unchanged
  · intro β others others' now operation
    have hDisabled := run_passed { s with enabled := false } created steps hExpected
    obtain ⟨hInvoked, hResult⟩ := hPassed.letsThrough.callAmong others now operation
    obtain ⟨-, hResult'⟩ := hDisabled.letsThrough.callAmong others' now operation
    exact ⟨hInvoked, hResult.trans hResult'.symm⟩

def oneStrike : BreakerSettings :=
  { BreakerSettings.standard with closedWindowIntervalMs := 10, consecutiveFailureThreshold := 1 }

/-- A cancelled call and a dropped one in a window, and a third that outlasts it and a reset. -/
def callersChoice : List (Step Nat) :=
  [⟨0, .start⟩, ⟨-5, .start⟩, ⟨3000000, .finish 0 (.error .cancelled)⟩, ⟨4000000, .start⟩,
    ⟨2000000, .drop 1⟩, ⟨20000000, .readState⟩, ⟨20000000, .reset⟩, ⟨0, .finish 2 (.ok 7)⟩]

theorem passes_through_callersChoice :
    (∀ x ∈ callersChoice, x.use.isExpected Backend.generic.classify = true) ∧
      (run oneStrike Backend.generic.classify 0 callersChoice).invoked = [0, 1, 2] ∧
      PassesThrough oneStrike Backend.generic.classify 0 callersChoice := by
  have hExpected : ∀ x ∈ callersChoice, x.use.isExpected Backend.generic.classify = true := by
    decide
  have hPasses := passes_through oneStrike Backend.generic.classify 0 callersChoice hExpected
  exact ⟨hExpected, hPasses.invoked, hPasses⟩

end Service

end CallGuard
