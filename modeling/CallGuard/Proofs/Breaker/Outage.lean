import CallGuard.Proofs.Breaker.Tripping

/-!
# Outages

When every call fails, a machine with a fixed window opens as soon as enough failures have come
in, however long the calls last and however many are in flight at once. They must be calls of the
window in which they end, though: a call that outlasts its window is not heard any more, so calls
that last long enough can all fail without opening anything.
-/

namespace CallGuard

/-- What remains of a window that is cleared tells only of which kind it is. -/
theorem Machine.Books.clear {s : BreakerSettings} {now : Instant} {m m' : Machine} {o : Outcome}
    {signals : List Signal} (hBooks : Books s now m o m' signals) :
    m'.counter.clear = m.counter.clear := by
  cases hBooks <;> simp

namespace Session

variable {s : BreakerSettings} {now : Instant} {w w' : Session}

section Kind

theorem Elapses.clear {signals : List Signal} (hElapses : Elapses s now w w' signals) :
    w'.machine.counter.clear = w.machine.counter.clear := by
  cases hElapses <;> simp

theorem Acts.clear {a : Action} {answer : Answer} {signals : List Signal}
    (hActs : Acts s now w a w' answer signals) :
    w'.machine.counter.clear = w.machine.counter.clear := by
  cases hActs with
  | refused | stale | stateRead => rfl
  | admitted => exact Window.clear_record now .request w.machine.counter
  | dropped => exact congrArg Window.clear w.machine.release_counter
  | booked _ _ hBooks => exact hBooks.clear.trans (congrArg Window.clear w.machine.release_counter)
  | countsRead => exact Window.clear_expire now w.machine.counter

theorem Performs.clear {x : Step} {report : Report} (hPerforms : Performs s x w w' report) :
    w'.machine.counter.clear = w.machine.counter.clear := by
  cases hPerforms with
  | idle => rfl
  | reset => exact Window.clear_clear _
  | acts hActs => exact hActs.clear.trans (elapses_refreshed s x.time w).clear

theorem exists_fixed (hFixed : s.isRolling = false) (created : Instant) (steps : List Step) :
    ∃ c, (run s created steps).machine.counter = .fixed c := by
  have hClear : (run s created steps).machine.counter.clear = .fixed Counts.zero := by
    induction steps using List.reverseRecOn with
    | nil =>
      change (Window.create s.closedWindow s.bucketPeriod created).clear = _
      rw [BreakerSettings.window_create, hFixed]
      rfl
    | append_singleton steps x ih =>
      rw [run_append_singleton]
      exact (performs_perform s x _).clear.trans ih
  cases hCounter : (run s created steps).machine.counter with
  | fixed c => exact ⟨c, rfl⟩
  | rolling r =>
    rw [hCounter] at hClear
    cases hClear

end Kind

/-- Whether an action that finds the machine closed ends a call of its generation that failed:
no transition, no end of a window and no reset has come since the call was admitted. -/
def countsFailure (w : Session) : Action → Bool
  | .settle k (some .failure) =>
    w.machine.state == .closed && (w.call? k).any fun c => c.epoch == w.epoch
  | _ => false

def failsClosed (s : BreakerSettings) (x : Step) (w : Session) : Bool :=
  (w.refreshed s x.time).countsFailure x.action

def failuresClosed (s : BreakerSettings) (w : Session) : List Step → Nat
  | [] => 0
  | x :: rest => (failsClosed s x w).toNat + failuresClosed s (w.perform s x).1 rest

theorem failuresClosed_append (w : Session) (earlier later : List Step) :
    failuresClosed s w (earlier ++ later) =
      failuresClosed s w earlier + failuresClosed s (w.after s earlier) later := by
  induction earlier generalizing w with
  | nil => exact (Nat.zero_add _).symm
  | cons x rest ih =>
    rw [List.cons_append, failuresClosed, failuresClosed, ih, Nat.add_assoc]
    rfl

theorem countsFailure_iff {a : Action} :
    w.countsFailure a = true ↔ ∃ k c, a = .settle k (some .failure) ∧
      w.machine.state = .closed ∧ w.call? k = some c ∧ c.epoch = w.epoch := by
  constructor
  · intro hCounts
    unfold countsFailure at hCounts
    split at hCounts
    · next k =>
      simp only [Bool.and_eq_true, beq_iff_eq, Option.any_eq_true] at hCounts
      obtain ⟨hClosed, c, hCall, hEpoch⟩ := hCounts
      exact ⟨k, c, rfl, hClosed, hCall, hEpoch⟩
    · cases hCounts
  · rintro ⟨k, c, rfl, hClosed, hCall, hEpoch⟩
    simp [countsFailure, hClosed, hCall, hEpoch]

def Pending (n : Nat) (w : Session) : Prop :=
  ∃ c, w.machine.counter = .fixed c ∧
    (w.machine.state = .closed → n ≤ c.consecutiveFailures.toNat)

namespace Pending

variable {n : Nat}

-- Whatever leaves the closed state makes the count vacuous until the machine closes again, and
-- without a success or a reset it does not.
theorem elapses {signals : List Signal} (h : Pending n w) (hElapses : Elapses s now w w' signals)
    (hNoRollover : .windowElapsed ∉ signals) : Pending n w' := by
  cases hElapses with
  | still => exact h
  | window => exact absurd List.mem_cons_self hNoRollover
  | probing =>
    obtain ⟨c, hCounter, _⟩ := h
    refine ⟨Counts.zero, congrArg Window.clear hCounter, ?_⟩
    intro hClosed
    cases hClosed

theorem booked {m m' : Machine} {o : Outcome} {signals : List Signal} {c : Counts}
    (hCounter : m.counter = .fixed c) (hStreak : m.state = .closed → n ≤ c.consecutiveFailures.toNat)
    (hFailure : o = .failure) (hBooks : Machine.Books s now m o m' signals) :
    ∃ c', m'.counter = .fixed c' ∧
      (m'.state = .closed → n + 1 ≤ c'.consecutiveFailures.toNat) := by
  subst hFailure
  have hWord := s.threshold_le
  cases hBooks with
  | succeeds _ hEvent | probeSucceeds _ hEvent | recovers _ hEvent => cases hEvent
  | unheard hOpened =>
    refine ⟨c, hCounter, ?_⟩
    intro hClosed
    cases hOpened.symm.trans hClosed
  | trips | probeFails =>
    refine ⟨Counts.zero, congrArg Window.clear hCounter, ?_⟩
    intro hClosed
    cases hClosed
  | fails hClosed _ hShort =>
    refine ⟨c.record .failure, ?_, ?_⟩
    · change (m.counter.record now .failure).expire now = _
      rw [hCounter]
      rfl
    · intro _
      have hFailures := hStreak hClosed
      simp only [Machine.streakAfterFailure, hCounter, Window.record, Window.countsAt,
        Counts.record, toNat_increase] at hShort ⊢
      omega

theorem acts {a : Action} {answer : Answer} {signals : List Signal} (hSound : Sound w)
    (h : Pending n w) (hNoSuccess : ∀ k o, a = .settle k (some o) → o = .failure)
    (hActs : Acts s now w a w' answer signals) :
    Pending (n + (w.countsFailure a).toNat) w' := by
  obtain ⟨c, hCounter, hStreak⟩ := h
  cases hActs with
  | refused | stateRead => exact ⟨c, hCounter, hStreak⟩
  | admitted => exact ⟨c.record .request, congrArg (Window.record now .request) hCounter, hStreak⟩
  | countsRead => exact ⟨c, congrArg (Window.expire now) hCounter, hStreak⟩
  | dropped =>
    refine ⟨c, w.machine.release_counter.trans hCounter, ?_⟩
    intro hClosed
    exact hStreak (w.machine.release_state.symm.trans hClosed)
  | @stale k d outcome hCall hStale =>
    have hOther : w.countsFailure (.settle k outcome) = false := by
      refine Bool.eq_false_iff.mpr fun hCounts => hStale ?_
      obtain ⟨_, _, hAction, _, hSame, hEpoch⟩ := countsFailure_iff.mp hCounts
      cases hAction
      cases hCall.symm.trans hSame
      exact hSound.permit_eq hCall hEpoch
    rw [hOther]
    exact ⟨c, hCounter, hStreak⟩
  | @booked k d o m signals _ _ hBooks =>
    obtain ⟨c', hCounter', hStreak'⟩ := booked (w.machine.release_counter.trans hCounter)
      (fun hClosed => hStreak (w.machine.release_state.symm.trans hClosed))
      (hNoSuccess k o rfl) hBooks
    refine ⟨c', hCounter', ?_⟩
    intro hClosed
    have hOne := Bool.toNat_le (w.countsFailure (.settle k (some o)))
    exact Nat.le_trans (Nat.add_le_add_left hOne n) (hStreak' hClosed)

theorem performs {x : Step} {report : Report} (hSound : Sound w) (h : Pending n w)
    (hNoReset : x.action ≠ .reset) (hNoRollover : .windowElapsed ∉ report.signals)
    (hNoSuccess : ∀ k o, x.action = .settle k (some o) → o = .failure)
    (hPerforms : Performs s x w w' report) : Pending (n + (failsClosed s x w).toNat) w' := by
  cases hPerforms with
  | @idle k outcome hAction hNone =>
    have hOther : failsClosed s x w = false := by
      refine Bool.eq_false_iff.mpr fun hCounts => ?_
      obtain ⟨_, _, hSame, _, hCall, _⟩ := countsFailure_iff.mp hCounts
      cases hAction.symm.trans hSame
      cases hNone.symm.trans hCall
    rw [hOther]
    exact h
  | reset hReset => exact absurd hReset hNoReset
  | acts hActs =>
    have hRefreshed := h.elapses (elapses_refreshed s x.time w) fun hMem =>
      hNoRollover (List.mem_append_left _ hMem)
    exact hRefreshed.acts hSound.refreshed hNoSuccess hActs

theorem run {steps : List Step} (hSound : Sound w) (h : Pending n w)
    (hNoReset : ∀ y ∈ steps, y.action ≠ .reset)
    (hNoRollover : ∀ report ∈ reports s w steps, .windowElapsed ∉ report.signals)
    (hNoSuccess : ∀ y ∈ steps, ∀ k o, y.action = .settle k (some o) → o = .failure) :
    Pending (n + failuresClosed s w steps) (w.after s steps) := by
  induction steps generalizing n w with
  | nil => exact h
  | cons x rest ih =>
    simp only [reports, List.forall_mem_cons] at hNoReset hNoRollover hNoSuccess
    have hPerforms := performs_perform s x w
    have hNext := h.performs hSound hNoReset.1 hNoRollover.1 hNoSuccess.1 hPerforms
    rw [failuresClosed, ← Nat.add_assoc]
    exact ih (hSound.performs hPerforms) hNext hNoReset.2 hNoRollover.2 hNoSuccess.2

/-- The last failure that is missing opens the machine. -/
theorem trips {x : Step} {report : Report} (hSound : Sound w) (h : Pending n w)
    (hEnough : s.threshold ≤ n + 1) (hNoRollover : .windowElapsed ∉ report.signals)
    (hCounts : failsClosed s x w = true) (hPerforms : Performs s x w w' report) :
    w'.machine.state = .opened ∧ .changed .closed .opened ∈ report.signals := by
  obtain ⟨k, d, hAction, hClosed, hCall, hEpoch⟩ := countsFailure_iff.mp hCounts
  obtain ⟨now, action⟩ := x
  cases hAction
  cases hPerforms with
  | idle hIdle hNone =>
    cases hIdle
    cases hNone.symm.trans hCall
  | reset hReset => cases hReset
  | acts hActs =>
    obtain ⟨c, hCounter, hStreak⟩ := h.elapses (elapses_refreshed s now w) fun hMem =>
      hNoRollover (List.mem_append_left _ hMem)
    have hSound' : Sound (w.refreshed s now) := hSound.refreshed
    cases hActs with
    | stale hCall' hStale =>
      cases hCall.symm.trans hCall'
      exact absurd (hSound'.permit_eq hCall hEpoch) hStale
    | booked _ _ hBooks =>
      have hClosed' := ((w.refreshed s now).machine.release_state).trans hClosed
      cases hBooks with
      | trips => exact ⟨rfl, List.mem_append_right _ List.mem_cons_self⟩
      | succeeds _ hEvent => cases hEvent
      | unheard hState | probeSucceeds hState | recovers hState | probeFails hState =>
        cases hClosed'.symm.trans hState
      | fails _ _ hShort =>
        have hWord := s.threshold_le
        have hFailures := hStreak hClosed
        simp only [Machine.streakAfterFailure, Machine.release_counter, hCounter, Window.record,
          Window.countsAt, Counts.record, toNat_increase] at hShort
        omega

end Pending

/-- A stretch of a run in which as many calls of one closed generation have failed as the settings
ask for opens the machine with the last of them, if it holds no success, no end of a window and
no reset. -/
theorem outage_opens (s : BreakerSettings) (created : Instant) (earlier stretch : List Step)
    (x : Step) (hFixed : s.isRolling = false)
    (hNoReset : ∀ y ∈ stretch, y.action ≠ .reset)
    (hNoRollover : ∀ report ∈ reports s (run s created earlier) (stretch ++ [x]),
      .windowElapsed ∉ report.signals)
    (hNoSuccess : ∀ y ∈ stretch, ∀ k o, y.action = .settle k (some o) → o = .failure)
    (hFailures : s.threshold ≤ failuresClosed s (run s created earlier) (stretch ++ [x]))
    (hLast : failsClosed s x (run s created (earlier ++ stretch)) = true) :
    (run s created (earlier ++ stretch ++ [x])).machine.state = .opened ∧
      .changed .closed .opened ∈
        ((run s created (earlier ++ stretch)).perform s x).2.signals := by
  obtain ⟨c, hCounter⟩ := exists_fixed hFixed created earlier
  have hNone : Pending 0 (run s created earlier) := ⟨c, hCounter, fun _ => Nat.zero_le _⟩
  rw [reports_append, List.forall_mem_append] at hNoRollover
  have hPending := hNone.run (.run created earlier) hNoReset hNoRollover.1 hNoSuccess
  rw [failuresClosed_append] at hFailures
  rw [run_append] at hLast
  rw [run_append_singleton, run_append]
  refine hPending.trips ?_ ?_ ?_ hLast (performs_perform s x _)
  · rw [← run_append]
    exact .run created (earlier ++ stretch)
  · rw [failuresClosed, hLast] at hFailures
    simpa [failuresClosed] using hFailures
  · exact hNoRollover.2 _ List.mem_cons_self

def twoWithin (windowMs : UInt64) : BreakerSettings :=
  { BreakerSettings.standard with
    closedWindowIntervalMs := windowMs, consecutiveFailureThreshold := 2 }

def threeAtOnce : List Step := [⟨0, .start⟩, ⟨0, .start⟩, ⟨500000000, .start⟩]

def allFailing : List Step :=
  [⟨3000000000, .settle 1 (some .failure)⟩, ⟨4000000000, .settle 2 none⟩,
    ⟨5000000000, .readCounts⟩, ⟨5000000000, .start⟩]

def lastFailing : Step := ⟨9999999999, .settle 0 (some .failure)⟩

theorem outage_opens_lastFailing :
    ((twoWithin 10000).isRolling = false ∧ (∀ y ∈ allFailing, y.action ≠ .reset) ∧
        (∀ report ∈ reports (twoWithin 10000) (run (twoWithin 10000) 0 threeAtOnce)
          (allFailing ++ [lastFailing]), .windowElapsed ∉ report.signals) ∧
        (∀ y ∈ allFailing, ∀ k o, y.action = .settle k (some o) → o = .failure) ∧
        (twoWithin 10000).threshold ≤ failuresClosed (twoWithin 10000)
          (run (twoWithin 10000) 0 threeAtOnce) (allFailing ++ [lastFailing]) ∧
        failsClosed (twoWithin 10000) lastFailing
          (run (twoWithin 10000) 0 (threeAtOnce ++ allFailing)) = true) ∧
      (run (twoWithin 10000) 0 (threeAtOnce ++ allFailing ++ [lastFailing])).machine.state =
        .opened := by
  have hFixed : (twoWithin 10000).isRolling = false := by decide
  have hNoReset : ∀ y ∈ allFailing, y.action ≠ .reset := by decide
  have hNoRollover : ∀ report ∈ reports (twoWithin 10000) (run (twoWithin 10000) 0 threeAtOnce)
      (allFailing ++ [lastFailing]), .windowElapsed ∉ report.signals := by decide
  have hNoSuccess : ∀ y ∈ allFailing, ∀ k o, y.action = .settle k (some o) → o = .failure := by
    simp [allFailing]
  have hFailures : (twoWithin 10000).threshold ≤ failuresClosed (twoWithin 10000)
      (run (twoWithin 10000) 0 threeAtOnce) (allFailing ++ [lastFailing]) := by decide
  have hLast : failsClosed (twoWithin 10000) lastFailing
      (run (twoWithin 10000) 0 (threeAtOnce ++ allFailing)) = true := by decide
  exact ⟨⟨hFixed, hNoReset, hNoRollover, hNoSuccess, hFailures, hLast⟩,
    (outage_opens (twoWithin 10000) 0 threeAtOnce allFailing lastFailing hFixed hNoReset
      hNoRollover hNoSuccess hFailures hLast).1⟩

def overtaken : List Step :=
  [⟨0, .start⟩, ⟨0, .start⟩, ⟨1000000000, .start⟩, ⟨1200000000, .settle 0 (some .failure)⟩,
    ⟨1300000000, .settle 1 (some .failure)⟩]

/-- The machine is closed all the time, both calls are admitted and fail, and nothing at all
happens from the first failure to the last; still it does not open. -/
theorem outage_unheard :
    ((twoWithin 1000).closedWindow.isSome = true ∧ (twoWithin 1000).bucketPeriod = none ∧
        (twoWithin 1000).threshold = 2 ∧ InOrder 0 overtaken) ∧
      (∀ n ≤ 5, (run (twoWithin 1000) 0 (overtaken.take n)).machine.state = .closed) ∧
      reports (twoWithin 1000) (create (twoWithin 1000) 0) overtaken =
        [⟨.admitted, []⟩, ⟨.admitted, []⟩, ⟨.admitted, [.windowElapsed]⟩, ⟨.silence, []⟩,
          ⟨.silence, []⟩] ∧
      (∀ k < 2, ((run (twoWithin 1000) 0 (overtaken.take 3)).call? k).isSome = true) ∧
      (run (twoWithin 1000) 0 overtaken).machine.state ≠ .opened := by
  decide

end Session

end CallGuard
