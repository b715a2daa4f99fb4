import CallGuard.Breaker.Call
import CallGuard.Proofs.Breaker.Streaks

/-!
# The state diagram

A breaker without a window whose calls come one after the other, and for which time passes only
between calls, is a diagram of three states with one number in each. Where a machine stands in the
diagram is all that a call has to know of it: its generation, its counts and the end of its phase
are read off from there.
-/

namespace CallGuard

/-- A place in the diagram: closed after so many failures in a row, open with or without a wait
since it opened, or half-open after so many successes. -/
inductive Phase where
  | closed (failures : Nat)
  | opened (waited : Bool)
  | halfOpen (successes : Nat)
deriving DecidableEq

namespace Phase

def state : Phase → State
  | closed _ => .closed
  | opened _ => .opened
  | halfOpen _ => .halfOpen

def waited : Phase → Phase
  | opened _ => opened true
  | p => p

def found : Phase → Phase
  | opened true => halfOpen 0
  | p => p

/-- Where the breaker is after a call that found it at a place. While it is open no call gets
through, and it does not matter how it would have ended. -/
def next (threshold quota : Nat) : Phase → Outcome → Phase
  | closed k, .failure => if threshold ≤ k + 1 then opened false else closed (k + 1)
  | closed _, .success | closed _, .ignored => closed 0
  | opened w, _ => opened w
  | halfOpen _, .failure => opened false
  | halfOpen j, .success | halfOpen j, .ignored =>
    if quota ≤ j + 1 then closed 0 else halfOpen (j + 1)

variable {threshold quota : Nat}

theorem found_ne_due (p : Phase) : p.found ≠ opened true := by
  cases p with
  | opened w => cases w <;> simp [found]
  | closed | halfOpen => simp [found]

theorem next_ne_due {p : Phase} (hFound : p ≠ opened true) (o : Outcome) :
    p.next threshold quota o ≠ opened true := by
  cases p with
  | closed k =>
    cases o with
    | success | ignored => simp [next]
    | failure =>
      rw [next]
      split <;> simp
  | opened w => exact hFound
  | halfOpen j =>
    cases o with
    | success | ignored =>
      rw [next]
      split <;> simp
    | failure => simp [next]

theorem next_of_opened {p : Phase} (hOpened : p.state = .opened) (o : Outcome) :
    p.next threshold quota o = p := by
  cases p with
  | opened w => rfl
  | closed | halfOpen => cases hOpened

end Phase

def Signal.between (source target : State) : List Signal :=
  if source = target then [] else [.changed source target]

namespace Machine

variable {s : BreakerSettings} {now : Instant} {p : Phase} {m : Machine}

theorem release_count (now : Instant) (m : Machine) :
    (m.count now).release = { m with counter := m.counter.record now .request } := by
  unfold release count
  split <;> simp_all

/-- The machine stands at a place of the diagram. When its open timeout passes is known from when
it opened, which was just now unless there has been a wait. -/
inductive StandsAt (s : BreakerSettings) (now : Instant) : Phase → Machine → Prop where
  | closed {k : Nat} {m : Machine} (hFew : k < s.threshold) (hStreak : m.Streak k) :
      StandsAt s now (.closed k) m
  | opened {m : Machine} (hPlain : m.counter.clear = .fixed .zero) (hTripped : m.Tripped s now) :
      StandsAt s now (.opened false) m
  | due {m : Machine} {ending : Instant} (hPlain : m.counter.clear = .fixed .zero)
      (hOpened : m.state = .opened) (hEnding : m.expiry = some ending) (hDue : ending ≤ now) :
      StandsAt s now (.opened true) m
  | halfOpen {m : Machine} (hPlain : m.counter.clear = .fixed .zero) (hHalf : m.state = .halfOpen)
      (hEndless : m.expiry = none) (hFree : m.probesInFlight = 0)
      (hFew : m.probeSuccesses < s.quota) : StandsAt s now (.halfOpen m.probeSuccesses) m

namespace StandsAt

theorem state_eq (h : StandsAt s now p m) : m.state = p.state := by
  cases h with
  | closed _ hStreak => exact hStreak.closed
  | opened _ hTripped => exact hTripped.opened
  | due _ hOpened => exact hOpened
  | halfOpen _ hHalf => exact hHalf

theorem plain (h : StandsAt s now p m) : m.counter.clear = .fixed .zero := by
  cases h with
  | closed _ hStreak => exact hStreak.plain
  | opened hPlain | due hPlain | halfOpen hPlain => exact hPlain

theorem create (hEndless : s.closedWindowIntervalMs = 0) (now : Instant) :
    StandsAt s now (.closed 0) (Machine.create s now) :=
  .closed s.threshold_pos (.create hEndless now)

theorem renewed_closed (hEndless : s.closedWindowIntervalMs = 0)
    (hPlain : m.counter.clear = .fixed .zero) :
    StandsAt s now (.closed 0) (m.renew s now .closed) :=
  .closed s.threshold_pos
    ⟨rfl, phaseEnd_closed (.inl (if_pos hEndless)) now, .zero, hPlain, rfl⟩

theorem renewed_opened (hPlain : m.counter.clear = .fixed .zero) :
    StandsAt s now (.opened false) (m.renew s now .opened) :=
  .opened (by simpa using hPlain) ⟨rfl, rfl⟩

theorem renewed_halfOpen (hPlain : m.counter.clear = .fixed .zero) :
    StandsAt s now (.halfOpen 0) (m.renew s now .halfOpen) :=
  .halfOpen (m := m.renew s now .halfOpen) (by simpa using hPlain) rfl rfl rfl s.quota_pos

/-- Nothing happens by itself but at the end of a wait. -/
theorem lasting (h : StandsAt s now p m) (hFound : p ≠ .opened true) : m.isExpired now = false := by
  cases h with
  | closed _ hStreak => exact hStreak.lasting now
  | opened _ hTripped =>
    exact hTripped.lasting (Int.lt_add_of_pos_right now (Int.natCast_pos.mpr s.openTimeout_pos))
  | due => exact absurd rfl hFound
  | halfOpen _ _ hEndless => rw [isExpired, hEndless, Option.any_none]

theorem refreshed (h : StandsAt s now p m) :
    ∃ r, m.refresh s now = (r, Signal.between p.state p.found.state) ∧
      StandsAt s now p.found r := by
  by_cases hDue : p = .opened true
  · cases h with
    | due hPlain hOpened hEnding hPast =>
      have hExpired : m.isExpired now = true := by
        rw [isExpired, hEnding]
        exact decide_eq_true hPast
      refine ⟨m.renew s now .halfOpen, ?_, renewed_halfOpen hPlain⟩
      simp only [refresh, hExpired, hOpened, if_true]
      rw [moveTo_of_ne s now (by rw [hOpened]; decide), hOpened]
      rfl
    | _ => cases hDue
  · have hFound : p.found = p := by
      cases p with
      | opened w =>
        cases w with
        | false => rfl
        | true => exact absurd rfl hDue
      | closed | halfOpen => rfl
    refine ⟨m, ?_, hFound.symm ▸ h⟩
    rw [hFound, refresh_of_lasting s (h.lasting hDue), Signal.between, if_pos rfl]

theorem rejection?_eq (h : StandsAt s now p m) :
    m.rejection? s = if p.state = .opened then some .opened else none := by
  cases h with
  | closed _ hStreak => simp [rejection?, hStreak.closed, Phase.state]
  | opened _ hTripped => simp [rejection?, hTripped.opened, Phase.state]
  | due _ hOpened => simp [rejection?, hOpened, Phase.state]
  | halfOpen _ hHalf _ hFree hFew => simp [rejection?, hHalf, hFree, hFew, Phase.state]

theorem counted (h : StandsAt s now p m) :
    StandsAt s now p { m with counter := m.counter.record now .request } := by
  have hPlain : (m.counter.record now .request).clear = .fixed .zero := by
    rw [Window.clear_record, h.plain]
  cases h with
  | closed hFew hStreak =>
    have hAdmitted := hStreak.admitted now
    exact .closed hFew ⟨hStreak.closed, hStreak.endless, hAdmitted.counted⟩
  | opened _ hTripped => exact .opened hPlain ⟨hTripped.opened, hTripped.timed⟩
  | due _ hOpened hEnding hDue => exact .due hPlain hOpened hEnding hDue
  | halfOpen _ hHalf hEndless hFree hFew =>
    exact .halfOpen (m := { m with counter := m.counter.record now .request }) hPlain hHalf hEndless
      hFree hFew

theorem booked_closed {k : Nat} (hFew : k < s.threshold) (hStreak : m.Streak k) (o : Outcome) :
    ∃ m', m.book s now o =
        (m', Signal.between .closed ((Phase.closed k).next s.threshold s.quota o).state) ∧
      StandsAt s now ((Phase.closed k).next s.threshold s.quota o) m' := by
  cases o with
  | success | ignored =>
    refine ⟨{ m with counter := m.counter.record now .success }, ?_,
      .closed s.threshold_pos (hStreak.afterSuccess now)⟩
    rw [book, bookSuccess, hStreak.closed]
    rfl
  | failure =>
    rw [book, bookFailure_closed s now hStreak.closed, hStreak.streakAfterFailure_eq hFew now,
      Phase.next]
    split
    · exact ⟨_, rfl, renewed_opened hStreak.plain⟩
    · next hShort =>
      exact ⟨_, rfl, .closed (Nat.lt_of_not_le hShort) (hStreak.afterFailure hFew now)⟩

theorem booked_halfOpen (hPlain : m.counter.clear = .fixed .zero) (hHalf : m.state = .halfOpen)
    (hLasts : m.expiry = none) (hFree : m.probesInFlight = 0)
    (hEndless : s.closedWindowIntervalMs = 0) (o : Outcome) :
    ∃ m', m.book s now o = (m', Signal.between .halfOpen
        ((Phase.halfOpen m.probeSuccesses).next s.threshold s.quota o).state) ∧
      StandsAt s now ((Phase.halfOpen m.probeSuccesses).next s.threshold s.quota o) m' := by
  cases o with
  | success | ignored =>
    rw [book, bookSuccess_halfOpen s now hHalf, Phase.next]
    split
    · exact ⟨_, rfl, renewed_closed hEndless hPlain⟩
    · next hShort =>
      exact ⟨_, rfl, .halfOpen
        (m := { m with
          counter := m.counter.record now .success
          probeSuccesses := m.probeSuccesses + 1 })
        (by rw [Window.clear_record, hPlain]) hHalf hLasts hFree (Nat.lt_of_not_le hShort)⟩
  | failure =>
    refine ⟨m.renew s now .opened, ?_, renewed_opened hPlain⟩
    rw [book, bookFailure, hHalf]
    simp only
    rw [moveTo_of_ne s now (by rw [hHalf]; decide), hHalf]
    rfl

/-- A call that gets through moves the machine as the diagram says. -/
theorem booked (h : StandsAt s now p m) (hEndless : s.closedWindowIntervalMs = 0)
    (hAdmits : p.state ≠ .opened) (o : Outcome) :
    ∃ m', m.book s now o =
        (m', Signal.between p.state (p.next s.threshold s.quota o).state) ∧
      StandsAt s now (p.next s.threshold s.quota o) m' := by
  cases h with
  | closed hFew hStreak => exact booked_closed hFew hStreak o
  | opened | due => exact absurd rfl hAdmits
  | halfOpen hPlain hHalf hLasts hFree =>
    exact booked_halfOpen hPlain hHalf hLasts hFree hEndless o

/-- A call that gets through is counted and booked in the generation in which it was admitted. -/
theorem settled (h : StandsAt s now p m) (hEndless : s.closedWindowIntervalMs = 0)
    (hAdmits : p.state ≠ .opened) (o : Outcome) :
    ∃ m', (m.count now).settle s now ⟨m.generation⟩ (some o) =
        (m', Signal.between p.state (p.next s.threshold s.quota o).state) ∧
      StandsAt s now (p.next s.threshold s.quota o) m' := by
  have hFound : p ≠ .opened true := fun hDue => hAdmits (congrArg Phase.state hDue)
  have hLasting : (m.count now).isExpired now = false := h.lasting hFound
  have hGeneration : (⟨m.generation⟩ : Permit).generation = (m.count now).generation := rfl
  obtain ⟨m', hBooked, hStands⟩ := h.counted.booked hEndless hAdmits o
  refine ⟨m', ?_, hStands⟩
  rw [settle, refresh_of_lasting s hLasting]
  simp only [if_pos hGeneration, release_count, hBooked, List.nil_append]

/-- A wait for the open timeout is long enough, if the clock gets to its end. -/
theorem waited (h : StandsAt s now p m) (hClock : now + s.openTimeout.nanos ≤ Instant.latest) :
    StandsAt s (now + s.openTimeout.nanos) p.waited m := by
  cases h with
  | closed hFew hStreak => exact .closed hFew hStreak
  | opened hPlain hTripped =>
    refine .due hPlain hTripped.opened ?_ (Int.le_refl _)
    rw [hTripped.timed, Instant.after?, if_pos hClock]
  | due hPlain hOpened hEnding hDue =>
    exact .due hPlain hOpened hEnding
      (Int.le_trans hDue (Int.le_add_of_nonneg_right (Int.natCast_nonneg _)))
  | halfOpen hPlain hHalf hEndless hFree hFew => exact .halfOpen hPlain hHalf hEndless hFree hFew

end StandsAt

end Machine

def Change.between (breaker : String) (source target : State) : List Change :=
  if source = target then [] else [⟨breaker, source, target⟩]

namespace Breaker

variable {α : Type} {s : BreakerSettings} {classifier : Classifier} {now : Instant} {p : Phase}
variable {m : Machine}

theorem changes_between (s : BreakerSettings) (source target : State) :
    Notice.changes (notices s (Signal.between source target)) =
      Change.between s.name source target := by
  unfold Signal.between Change.between
  split <;> rfl

def answerAt (breaker : String) (p : Phase) (result : Except Fault α) : Except CallError α :=
  if p.state = .opened then .error (.opened breaker) else result.mapError .operation

theorem start_at (classifier : Classifier) (h : m.StandsAt s now p) :
    ∃ r, r.StandsAt s now p.found ∧
      (stateful s classifier m).start now =
        if p.found.state = .opened then
          (.error (.opened s.name), stateful s classifier r,
            notices s (Signal.between p.state p.found.state) ++ [.rejected s.name .opened])
        else
          (.ok (some ⟨r.generation⟩), stateful s classifier (r.count now),
            notices s (Signal.between p.state p.found.state)) := by
  obtain ⟨r, hRefreshed, hStands⟩ := h.refreshed
  refine ⟨r, hStands, ?_⟩
  rw [start, Machine.enter, hRefreshed]
  simp only [hStands.rejection?_eq]
  by_cases hOpened : p.found.state = .opened
  · simp only [if_pos hOpened]
    rfl
  · simp only [if_neg hOpened]

/-- A call that takes no time is answered as the place says where it finds the breaker, and it
leaves the breaker at the next one. -/
theorem call_at (classifier : Classifier) (h : m.StandsAt s now p)
    (hEndless : s.closedWindowIntervalMs = 0) (result : Except Fault α) :
    let left := p.found.next s.threshold s.quota (outcomeOf classifier result)
    ∃ m' invoked notices, m'.StandsAt s now left ∧
      (stateful s classifier m).call now (fun began => (result, began)) =
        ⟨answerAt s.name p.found result, invoked, now, stateful s classifier m', notices⟩ ∧
      Notice.changes notices =
        Change.between s.name p.state p.found.state ++
          Change.between s.name p.found.state left.state := by
  intro left
  obtain ⟨r, hStands, hStarted⟩ := start_at classifier h
  by_cases hOpened : p.found.state = .opened
  · rw [if_pos hOpened] at hStarted
    have hLeft : left = p.found := Phase.next_of_opened hOpened _
    refine ⟨r, false, notices s (Signal.between p.state p.found.state) ++
      [.rejected s.name .opened], hLeft.symm ▸ hStands, ?_, ?_⟩
    · rw [call, callAmong, hStarted, answerAt, if_pos hOpened]
    · rw [Notice.changes_append, changes_between, hLeft, Change.between, Change.between,
        if_pos (rfl : p.found.state = p.found.state)]
      rfl
  · rw [if_neg hOpened] at hStarted
    obtain ⟨m', hSettled, hLeft⟩ :=
      hStands.settled hEndless hOpened (outcomeOf classifier result)
    refine ⟨m', true, notices s (Signal.between p.state p.found.state) ++
      .booked s.name (outcomeOf classifier result) ::
        notices s (Signal.between p.found.state left.state), hLeft, ?_, ?_⟩
    · rw [call, callAmong, hStarted, answerAt, if_neg hOpened]
      simp only [Bystanders.none, finish, hSettled, List.append_nil]
      rfl
    · rw [Notice.changes_append, changes_between]
      exact congrArg _ (changes_between s _ _)

theorem state_at (classifier : Classifier) (h : m.StandsAt s now p) (hFound : p ≠ .opened true) :
    (stateful s classifier m).state now = (p.state, stateful s classifier m, []) := by
  rw [state, Machine.readState, Machine.refresh_of_lasting s (h.lasting hFound)]
  simp only [h.state_eq]
  rfl

end Breaker

end CallGuard
