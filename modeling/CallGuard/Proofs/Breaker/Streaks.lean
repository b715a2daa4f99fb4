import CallGuard.Proofs.Breaker.Transitions

/-!
# Streaks of failures without a window

A closed machine whose counts never expire knows how many of its last results were failures, and a
machine that has opened knows when. Nothing else has to be known of them to tell what a call does.
-/

namespace CallGuard

namespace Machine

structure Streak (n : Nat) (m : Machine) : Prop where
  closed : m.state = .closed
  endless : m.expiry = none
  counted : ∃ counts : Counts, m.counter = .fixed counts ∧ counts.consecutiveFailures.toNat = n

structure Tripped (s : BreakerSettings) (opening : Instant) (m : Machine) : Prop where
  opened : m.state = .opened
  timed : m.expiry = opening.after? s.openTimeout

variable {s : BreakerSettings} {opening now : Instant} {n : Nat} {m : Machine}

theorem refresh_of_lasting (s : BreakerSettings) (h : m.isExpired now = false) :
    m.refresh s now = (m, []) := by
  rw [refresh, if_neg (Bool.not_eq_true _ ▸ h)]

namespace Streak

theorem create (hEndless : s.closedWindowIntervalMs = 0) (created : Instant) :
    (Machine.create s created).Streak 0 := by
  have hWindow : s.closedWindow = none := if_pos hEndless
  have hCounter : (Machine.create s created).counter = .fixed .zero := by
    simp only [Machine.create, Window.create, hWindow]
  exact ⟨rfl, phaseEnd_closed (.inl hWindow) created, .zero, hCounter, rfl⟩

theorem lasting (h : m.Streak n) (now : Instant) : m.isExpired now = false := by
  rw [isExpired, h.endless, Option.any_none]

theorem refresh_eq (h : m.Streak n) (s : BreakerSettings) (now : Instant) :
    m.refresh s now = (m, []) :=
  refresh_of_lasting s (h.lasting now)

theorem plain (h : m.Streak n) : m.counter.clear = .fixed .zero := by
  obtain ⟨counts, hCounter, _⟩ := h.counted
  rw [hCounter]
  rfl

theorem admitted (h : m.Streak n) (now : Instant) : (m.count now).Streak n := by
  obtain ⟨counts, hCounter, hLength⟩ := h.counted
  exact ⟨h.closed, h.endless, _, congrArg (Window.record now .request) hCounter, hLength⟩

/-- One more failure makes the streak longer; below the threshold the count does not stick. -/
theorem recorded_failure (h : m.Streak n) (hFew : n < s.threshold) (now : Instant) :
    ∃ counts : Counts, m.counter.record now .failure = .fixed counts ∧
      counts.consecutiveFailures.toNat = n + 1 := by
  obtain ⟨counts, hCounter, hLength⟩ := h.counted
  refine ⟨counts.record .failure, congrArg (Window.record now .failure) hCounter, ?_⟩
  have hWord := s.threshold_le
  change (increase counts.consecutiveFailures).toNat = n + 1
  rw [toNat_increase, hLength]
  omega

theorem streakAfterFailure_eq (h : m.Streak n) (hFew : n < s.threshold) (now : Instant) :
    m.streakAfterFailure now = n + 1 := by
  obtain ⟨counts, hRecorded, hLonger⟩ := h.recorded_failure hFew now
  rw [streakAfterFailure, hRecorded]
  exact hLonger

theorem afterFailure (h : m.Streak n) (hFew : n < s.threshold) (now : Instant) :
    { m with counter := (m.counter.record now .failure).expire now }.Streak (n + 1) := by
  obtain ⟨counts, hRecorded, hLonger⟩ := h.recorded_failure hFew now
  exact ⟨h.closed, h.endless, counts, congrArg (Window.expire now) hRecorded, hLonger⟩

theorem afterSuccess (h : m.Streak n) (now : Instant) :
    { m with counter := m.counter.record now .success }.Streak 0 := by
  obtain ⟨counts, hCounter, _⟩ := h.counted
  exact ⟨h.closed, h.endless, _, congrArg (Window.record now .success) hCounter, rfl⟩

end Streak

/-- It does not leave the open state by itself before its timeout has passed. -/
theorem Tripped.lasting (h : m.Tripped s opening) (hEarly : now < opening + s.openTimeout.nanos) :
    m.isExpired now = false := by
  rw [isExpired, h.timed, Instant.after?]
  split
  · exact decide_eq_false (Int.not_le.mpr hEarly)
  · rfl

theorem Tripped.refresh_eq (h : m.Tripped s opening)
    (hEarly : now < opening + s.openTimeout.nanos) : m.refresh s now = (m, []) :=
  refresh_of_lasting s (h.lasting hEarly)

end Machine

end CallGuard
