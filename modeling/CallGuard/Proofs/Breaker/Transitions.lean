import CallGuard.Breaker.Machine

/-!
# What can happen to a machine

A timeout that takes effect and an outcome that is booked are all that ever moves a machine to
another state. Each is told here once, rule by rule; what follows reasons from the rules and
leaves the functions of the machine closed.
-/

namespace CallGuard

namespace Window

@[simp] theorem clear_record (now : Instant) (e : Event) (w : Window) :
    (w.record now e).clear = w.clear := by
  cases w <;> rfl

@[simp] theorem clear_expire (now : Instant) (w : Window) : (w.expire now).clear = w.clear := by
  cases w <;> rfl

@[simp] theorem clear_clear (w : Window) : w.clear.clear = w.clear := by
  cases w <;> rfl

end Window

namespace Machine

variable (s : BreakerSettings) (now : Instant)

@[simp] theorem renew_state (state : State) (m : Machine) :
    (m.renew s now state).state = state := rfl

@[simp] theorem renew_generation (state : State) (m : Machine) :
    (m.renew s now state).generation = m.generation + 1 := rfl

@[simp] theorem renew_counter (state : State) (m : Machine) :
    (m.renew s now state).counter = m.counter.clear := rfl

@[simp] theorem renew_probesInFlight (state : State) (m : Machine) :
    (m.renew s now state).probesInFlight = 0 := rfl

@[simp] theorem renew_probeSuccesses (state : State) (m : Machine) :
    (m.renew s now state).probeSuccesses = 0 := rfl

theorem renew_eq_renew {m n : Machine} (state : State) (hGeneration : m.generation = n.generation)
    (hCounter : m.counter.clear = n.counter.clear) :
    m.renew s now state = n.renew s now state := by
  simp only [renew, hGeneration, hCounter]

theorem phaseEnd_closed {s : BreakerSettings}
    (hUnending : s.closedWindow = none ∨ s.isRolling = true) (now : Instant) :
    phaseEnd s now .closed = none := by
  rcases hUnending with hNone | hRolling
  · simp [phaseEnd, hNone]
  · exact if_pos hRolling

theorem moveTo_of_ne {m : Machine} {target : State} (hNe : m.state ≠ target) :
    m.moveTo s now target = (m.renew s now target, [.changed m.state target]) :=
  if_neg hNe

theorem refresh_eq (m : Machine) :
    m.refresh s now =
      if m.isExpired now = true ∧ m.state = .closed then
        (m.renew s now .closed, [.windowElapsed])
      else if m.isExpired now = true ∧ m.state = .opened then
        (m.renew s now .halfOpen, [.changed .opened .halfOpen])
      else (m, []) := by
  unfold refresh
  cases hState : m.state <;> cases hExpired : m.isExpired now <;> simp [moveTo, hState]

theorem refresh_of_closed {m : Machine} (hClosed : m.state = .closed) :
    m.refresh s now =
      if m.isExpired now then (m.renew s now .closed, [.windowElapsed]) else (m, []) := by
  simp [refresh_eq, hClosed]

@[simp] theorem release_state (m : Machine) : m.release.state = m.state := by
  unfold release
  split <;> rfl

@[simp] theorem release_generation (m : Machine) : m.release.generation = m.generation := by
  unfold release
  split <;> rfl

@[simp] theorem release_counter (m : Machine) : m.release.counter = m.counter := by
  unfold release
  split <;> rfl

@[simp] theorem release_probeSuccesses (m : Machine) :
    m.release.probeSuccesses = m.probeSuccesses := by
  unfold release
  split <;> rfl

@[simp] theorem renew_release (state : State) (m : Machine) :
    m.release.renew s now state = m.renew s now state :=
  renew_eq_renew s now state (release_generation m) (congrArg Window.clear (release_counter m))

theorem rejection?_eq_none_iff (m : Machine) :
    m.rejection? s = none ↔ m.state = .closed ∨
      m.state = .halfOpen ∧ m.probesInFlight + m.probeSuccesses < s.quota := by
  unfold rejection?
  cases hState : m.state <;> simp

theorem rejection?_eq_tooManyProbes_iff (m : Machine) :
    m.rejection? s = some .tooManyProbes ↔
      m.state = .halfOpen ∧ s.quota ≤ m.probesInFlight + m.probeSuccesses := by
  unfold rejection?
  cases hState : m.state <;> simp

/-- The streak of failures that a machine sees once it has counted one more. -/
def streakAfterFailure (m : Machine) : Nat :=
  ((m.counter.record now .failure).countsAt now).consecutiveFailures.toNat

inductive Books (m : Machine) (o : Outcome) : Machine → List Signal → Prop where
  | unheard : m.state = .opened → Books m o m []
  | succeeds : m.state = .closed → o.event = .success →
      Books m o { m with counter := m.counter.record now .success } []
  | fails : m.state = .closed → o.event = .failure →
      m.streakAfterFailure now < s.threshold →
      Books m o { m with counter := (m.counter.record now .failure).expire now } []
  | trips : m.state = .closed → o.event = .failure →
      s.threshold ≤ m.streakAfterFailure now →
      Books m o (m.renew s now .opened) [.changed .closed .opened]
  | probeSucceeds : m.state = .halfOpen → o.event = .success →
      m.probeSuccesses + 1 < s.quota →
      Books m o
        { m with
          counter := m.counter.record now .success
          probeSuccesses := m.probeSuccesses + 1 } []
  | recovers : m.state = .halfOpen → o.event = .success →
      s.quota ≤ m.probeSuccesses + 1 →
      Books m o (m.renew s now .closed) [.changed .halfOpen .closed]
  | probeFails : m.state = .halfOpen → o.event = .failure →
      Books m o (m.renew s now .opened) [.changed .halfOpen .opened]

theorem bookSuccess_halfOpen {m : Machine} (hState : m.state = .halfOpen) :
    m.bookSuccess s now =
      if s.quota ≤ m.probeSuccesses + 1 then
        (m.renew s now .closed, [.changed .halfOpen .closed])
      else
        ({ m with
          counter := m.counter.record now .success
          probeSuccesses := m.probeSuccesses + 1 }, []) := by
  simp only [bookSuccess, hState]
  split
  · rw [moveTo_of_ne s now (by simp)]
    exact Prod.ext (renew_eq_renew s now .closed rfl (by simp)) rfl
  · rfl

theorem bookFailure_closed {m : Machine} (hState : m.state = .closed) :
    m.bookFailure s now =
      if s.threshold ≤ m.streakAfterFailure now then
        (m.renew s now .opened, [.changed .closed .opened])
      else ({ m with counter := (m.counter.record now .failure).expire now }, []) := by
  simp only [bookFailure, Window.read, streakAfterFailure, hState]
  split
  · rw [moveTo_of_ne s now (by simp)]
    exact Prod.ext (renew_eq_renew s now .opened rfl (by simp)) rfl
  · rfl

theorem book_of_success {o : Outcome} (hEvent : o.event = .success) (m : Machine) :
    m.book s now o = m.bookSuccess s now := by
  cases o with
  | success | ignored => rfl
  | failure => cases hEvent

theorem book_of_failure {o : Outcome} (hEvent : o.event = .failure) (m : Machine) :
    m.book s now o = m.bookFailure s now := by
  cases o with
  | success | ignored => cases hEvent
  | failure => rfl

theorem books_book (m : Machine) (o : Outcome) :
    Books s now m o (m.book s now o).1 (m.book s now o).2 := by
  cases hEvent : o.event with
  | request => cases o <;> cases hEvent
  | success =>
    rw [book_of_success s now hEvent]
    cases hState : m.state with
    | closed => simpa [bookSuccess, hState] using Books.succeeds hState hEvent
    | opened => simpa [bookSuccess, hState] using Books.unheard hState
    | halfOpen =>
      rw [bookSuccess_halfOpen s now hState]
      split
      · next hQuota => exact .recovers hState hEvent hQuota
      · next hQuota => exact .probeSucceeds hState hEvent (Nat.lt_of_not_le hQuota)
  | failure =>
    rw [book_of_failure s now hEvent]
    cases hState : m.state with
    | closed =>
      rw [bookFailure_closed s now hState]
      split
      · next hStreak => exact .trips hState hEvent hStreak
      · next hStreak => exact .fails hState hEvent (Nat.lt_of_not_le hStreak)
    | opened => simpa [bookFailure, hState] using Books.unheard hState
    | halfOpen =>
      simp only [bookFailure, hState, moveTo]
      exact .probeFails hState hEvent

theorem Books.book_eq {s : BreakerSettings} {now : Instant} {m m' : Machine} {o : Outcome}
    {signals : List Signal} (hBooks : Books s now m o m' signals) :
    m.book s now o = (m', signals) := by
  cases hBooks with
  | unheard hOpened => cases o <;> simp [book, bookSuccess, bookFailure, hOpened]
  | succeeds hClosed hEvent => simp [book_of_success s now hEvent, bookSuccess, hClosed]
  | fails hClosed hEvent hShort =>
    rw [book_of_failure s now hEvent, bookFailure_closed s now hClosed,
      if_neg (Nat.not_le.mpr hShort)]
  | trips hClosed hEvent hLong =>
    rw [book_of_failure s now hEvent, bookFailure_closed s now hClosed, if_pos hLong]
  | probeSucceeds hHalf hEvent hFew =>
    rw [book_of_success s now hEvent, bookSuccess_halfOpen s now hHalf,
      if_neg (Nat.not_le.mpr hFew)]
  | recovers hHalf hEvent hEnough =>
    rw [book_of_success s now hEvent, bookSuccess_halfOpen s now hHalf, if_pos hEnough]
  | probeFails hHalf hEvent =>
    simp [book_of_failure s now hEvent, bookFailure, hHalf, moveTo]

/-- The rules exclude one another. -/
theorem Books.unique {s : BreakerSettings} {now : Instant} {m n n' : Machine} {o : Outcome}
    {signals signals' : List Signal} (hBooks : Books s now m o n signals)
    (hBooks' : Books s now m o n' signals') : n' = n ∧ signals' = signals :=
  Prod.mk.inj (hBooks'.book_eq.symm.trans hBooks.book_eq)

/-- Booking leaves a machine in its generation and state, or it moves it to another state. -/
theorem Books.stays_or_moves {s : BreakerSettings} {now : Instant} {m m' : Machine} {o : Outcome}
    {signals : List Signal} (hBooks : Books s now m o m' signals) :
    (signals = [] ∧ m'.generation = m.generation ∧ m'.state = m.state) ∨
      ∃ target, signals = [.changed m.state target] ∧ m' = m.renew s now target := by
  cases hBooks with
  | unheard | succeeds | fails | probeSucceeds => exact .inl ⟨rfl, rfl, rfl⟩
  | trips hState => exact .inr ⟨.opened, by rw [hState], rfl⟩
  | recovers hState => exact .inr ⟨.closed, by rw [hState], rfl⟩
  | probeFails hState => exact .inr ⟨.opened, by rw [hState], rfl⟩

end Machine

end CallGuard
