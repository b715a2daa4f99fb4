import CallGuard.Proofs.Breaker.Recording

/-!
# When a closed machine opens

A closed machine opens when a failure of one of its own calls makes the outcomes that still count
end with as many failures in a row as the settings ask for, and at no other time. So while it is
closed, its streak of failures is always shorter than that.
-/

namespace CallGuard.Session

section Transitions

variable {s : BreakerSettings} {now : Instant} {w : Session}

theorem refreshed_closed (hClosed : w.machine.state = .closed) :
    (w.refreshed s now).machine.state = .closed := by
  change (w.machine.refresh s now).1.state = .closed
  rw [Machine.refresh_of_closed s now hClosed]
  split
  · rfl
  · exact hClosed

/-- Only the booking of a failure opens a closed machine, and only if its streak is long enough. -/
theorem Performs.opens_iff {x : Step} {w' : Session} {report : Report}
    (hPerforms : Performs s x w w' report) (hClosed : w.machine.state = .closed) :
    w'.machine.state = .opened ↔
      ∃ k c, x.action = .settle k (some .failure) ∧ w.call? k = some c ∧
        c.permit.generation = (w.refreshed s x.time).machine.generation ∧
        s.threshold ≤ (w.refreshed s x.time).machine.release.streakAfterFailure x.time := by
  obtain ⟨now, action⟩ := x
  have hRefreshed : (w.refreshed s now).machine.state = .closed := refreshed_closed hClosed
  constructor
  · intro hOpened
    cases hPerforms with
    | idle => simp [hClosed] at hOpened
    | reset => cases hOpened
    | acts hActs =>
      cases hActs with
      | @booked k c o m signals hCall hCurrent hBooks =>
        change m.state = .opened at hOpened
        cases hBooks with
        | trips _ hEvent hStreak =>
          obtain rfl : o = .failure := by cases o <;> simp_all [Outcome.event]
          exact ⟨k, c, rfl, hCall, hCurrent, hStreak⟩
        | _ => simp_all
      | dropped =>
        change (w.refreshed s now).machine.release.state = .opened at hOpened
        simp [hRefreshed] at hOpened
      | _ =>
        change (w.refreshed s now).machine.state = .opened at hOpened
        simp [hRefreshed] at hOpened
  · rintro ⟨k, c, hAction, hCall, hCurrent, hStreak⟩
    cases hAction
    cases hPerforms with
    | idle hIdle hNone =>
      cases hIdle
      rw [hCall] at hNone
      cases hNone
    | reset hReset => cases hReset
    | acts hActs =>
      cases hActs with
      | stale hCall' hStale =>
        obtain rfl : c = _ := Option.some.inj (hCall.symm.trans hCall')
        exact absurd hCurrent hStale
      | booked _ _ hBooks =>
        cases hBooks with
        | trips => rfl
        | fails _ _ hShort => exact absurd hStreak (Nat.not_le_of_lt hShort)
        | succeeds _ hEvent => cases hEvent
        | _ hState => simp_all

end Transitions

def outcomes (s : BreakerSettings) (created now : Instant) (w : Session) : List Event :=
  ((w.history.filter fun x => s.remembers created now x.1).map Prod.snd).filter (· != .request)

/-- A rolling window counts the calls of its generation in words. -/
def Few (s : BreakerSettings) (w : Session) : Prop := s.isRolling = true → w.admissions < 2 ^ 32

theorem few_ended (s : BreakerSettings) (now : Instant) (w : Session) (k : Nat) (c : Call)
    (outcome : Option Outcome) : Few s (w.ended now k c outcome) ↔ Few s w := by
  rw [Few, Few, admissions_ended]

namespace Recorded

variable {s : BreakerSettings} {created now : Instant} {w : Session}

theorem few_events (h : Recorded s created now w) (hSound : Sound w) (hFew : Few s w) :
    w.machine.counter.isRolling = true → ∀ e, (w.history.map Prod.snd).count e < 2 ^ 32 := by
  intro hRolling e
  rw [h.isRolling_eq] at hRolling
  exact Nat.lt_of_le_of_lt (hSound.count_history_le e) (hFew hRolling)

theorem countsAt (h : Recorded s created now w) (hSound : Sound w) (hFew : Few s w) :
    w.machine.counter.countsAt now = Counts.ofEvents (w.machine.counter.recent now w.history) :=
  h.holds.countsAt h.sorted (h.few_events hSound hFew)

theorem streakAfterFailure_eq {k : Nat} {c : Call} (h : Recorded s created now w)
    (hSound : Sound w) (hFew : Few s w) (hCall : w.call? k = some c)
    (hCurrent : c.epoch = w.epoch) :
    w.machine.release.streakAfterFailure now =
      min (streak .failure (w.machine.counter.recent now (w.history ++ [(now, .failure)])))
        4294967295 := by
  have hEnded : (w.ended now k c (some .failure)).history = w.history ++ [(now, .failure)] :=
    history_booked now hCurrent k .failure
  have hEvents : (w.machine.counter.record now .failure).isRolling = true →
      ∀ e, ((w.history ++ [(now, Event.failure)]).map Prod.snd).count e < 2 ^ 32 := by
    intro hRolling e
    have hKind : (w.machine.counter.record now .failure).isRolling = s.isRolling := by
      rw [← h.isRolling_eq]
      cases w.machine.counter <;> rfl
    have hSound' : Sound (w.ended now k c (some .failure)) := hSound.ended hCall _
    have hLe := hSound'.count_history_le e
    rw [hEnded, admissions_ended] at hLe
    exact Nat.lt_of_le_of_lt hLe (hFew (hKind.symm.trans hRolling))
  have hCounts := (h.holds.record .failure).countsAt (h.sorted_append .failure) hEvents
  rw [Machine.streakAfterFailure, Machine.release_counter, hCounts, Window.recent_record,
    Counts.ofEvents_eq, toNat_saturated]

theorem recent_eq (h : Recorded s created now w) (hRange : s.InRange created now) :
    w.machine.counter.recent now w.history =
      (w.history.filter fun x => s.remembers created now x.1).map Prod.snd := by
  refine congrArg (List.map Prod.snd) (List.filter_congr fun x hMem => ?_)
  exact BreakerSettings.covers_eq_remembers h.window hRange (h.past x hMem)

/-- A failure that is booked makes the streak long enough exactly if the outcomes that count then
end with that many failures. -/
theorem threshold_le_iff {k : Nat} {c : Call} (h : Recorded s created now w) (hSound : Sound w)
    (hFew : Few s w) (hRange : s.InRange created now) (hCall : w.call? k = some c)
    (hCurrent : c.epoch = w.epoch) :
    s.threshold ≤ w.machine.release.streakAfterFailure now ↔
      List.replicate s.threshold Event.failure <:+ w.outcomes s created now ++ [.failure] := by
  have hCovers : w.machine.counter.covers now now = true := by
    rw [BreakerSettings.covers_eq_remembers h.window hRange (Int.le_refl now)]
    exact s.remembers_now created now
  have hOutcomes : w.outcomes s created now ++ [Event.failure] =
      (w.machine.counter.recent now w.history ++ [Event.failure]).filter (· != Event.request) := by
    rw [h.recent_eq hRange, List.filter_append]
    rfl
  have hWord := s.threshold_le
  rw [h.streakAfterFailure_eq hSound hFew hCall hCurrent, Window.recent_append_singleton,
    if_pos hCovers, hOutcomes, replicate_suffix_iff]
  omega

end Recorded

/-- What a closed machine counts ends with fewer failures than it takes to open it. -/
structure Holding (s : BreakerSettings) (created now : Instant) (w : Session) : Prop where
  recorded : Recorded s created now w
  below : w.machine.state = .closed → Few s w →
    streak .failure (w.machine.counter.recent now w.history) < s.threshold

namespace Holding

variable {s : BreakerSettings} {created now : Instant} {w : Session}

theorem create (s : BreakerSettings) (created : Instant) :
    Holding s created created (create s created) where
  recorded := .create s created
  below _ _ := s.threshold_pos

theorem later {later : Instant} (h : Holding s created now w) (hLater : now ≤ later) :
    Holding s created later w where
  recorded := h.recorded.later hLater
  below hClosed hFew := by
    have hSuffix := Window.recent_suffix_of_later h.recorded.sorted hLater w.machine.counter
    exact Nat.lt_of_le_of_lt (streak_le_of_suffix hSuffix) (h.below hClosed hFew)

theorem renewed (hSound : Sound w)
    (hWindow : w.machine.counter.clear = Window.create s.closedWindow s.bucketPeriod created)
    (now : Instant) (state : State) : Holding s created now (w.renewed s now state) where
  recorded := .renewed hSound hWindow now state
  below _ _ := by
    rw [history_eq_nil_of_renewed hSound state]
    exact s.threshold_pos

theorem booked {k : Nat} {c : Call} {o : Outcome} {m : Machine} {signals : List Signal}
    (h : Holding s created now w) (hSound : Sound w) (hCall : w.call? k = some c)
    (hCurrent : c.epoch = w.epoch) (hBooks : Machine.Books s now w.machine.release o m signals) :
    Holding s created now
      { w.ended now k c (some o) with machine := m, epoch := w.epoch + signals.length } := by
  refine ⟨h.recorded.booked hSound hCall hCurrent hBooks, fun hClosed hFew => ?_⟩
  have hHistory : (w.ended now k c (some o)).history = w.history ++ [(now, o.event)] :=
    history_booked now hCurrent k o
  cases hBooks with
  | unheard hState => simp_all
  | probeSucceeds hState => simp_all
  | trips => cases hClosed
  | probeFails => cases hClosed
  | recovers =>
    rw [Machine.renew_release] at hFew ⊢
    have hSound' : Sound (w.ended now k c (some o)) := hSound.ended hCall _
    exact (renewed hSound' h.recorded.window now .closed).below rfl hFew
  | succeeds hState hEvent =>
    rw [Machine.release_state] at hState
    have hBelow := h.below hState ((few_ended s now w k c (some o)).mp hFew)
    change streak .failure ((w.machine.release.counter.record now .success).recent now
      (w.ended now k c (some o)).history) < s.threshold
    rw [hHistory, hEvent, Machine.release_counter, Window.recent_record,
      Window.recent_append_singleton]
    -- Out of range not even the present event counts, and then nothing changes.
    split
    · rw [streak_append_other _ (by decide) (by decide)]
      exact s.threshold_pos
    · rw [List.append_nil]
      exact hBelow
  | fails hState hEvent hShort =>
    have hFew' : Few s w := (few_ended s now w k c (some o)).mp hFew
    have hWord := s.threshold_le
    change streak .failure (((w.machine.release.counter.record now .failure).expire now).recent now
      (w.ended now k c (some o)).history) < s.threshold
    rw [h.recorded.streakAfterFailure_eq hSound hFew' hCall hCurrent] at hShort
    rw [hHistory, hEvent, Machine.release_counter, Window.recent_expire, Window.recent_record]
    omega

theorem acts {a : Action} {r r' : Session} {answer : Answer} {signals : List Signal}
    (hSound : Sound r) (hEpoch : r.epoch < 2 ^ 64) (h : Holding s created now r)
    (hActs : Acts s now r a r' answer signals) : Holding s created now r' := by
  have hRecorded := h.recorded.acts hSound hEpoch hActs
  cases hActs with
  | refused => exact ⟨hRecorded, h.below⟩
  | admitted hAdmits =>
    refine ⟨hRecorded, fun hClosed hFew => ?_⟩
    have hBelow := h.below hClosed fun hRolling => by
      have hLt := hFew hRolling
      rw [admissions_admitted] at hLt
      omega
    change streak .failure ((r.machine.counter.record now .request).recent now _) < s.threshold
    rw [history_admitted, Window.recent_record, Window.recent_append_singleton]
    split
    · rw [streak_append_request]
      exact hBelow
    · rw [List.append_nil]
      exact hBelow
  | @stale k c outcome hCall hStale =>
    have hNe := (not_congr (hSound.current_iff hEpoch hCall)).mp hStale
    refine ⟨hRecorded, fun hClosed hFew => ?_⟩
    rw [history_unbooked now (.inl hNe)]
    exact h.below hClosed ((few_ended s now r k c outcome).mp hFew)
  | @dropped k c hCall hCurrent =>
    refine ⟨hRecorded, fun hClosed hFew => ?_⟩
    have hHistory : (r.ended now k c none).history = r.history :=
      history_unbooked now (.inr rfl) k
    change streak .failure (r.machine.release.counter.recent now (r.ended now k c none).history) < _
    rw [hHistory, Machine.release_counter]
    exact h.below ((Machine.release_state _).symm.trans hClosed)
      ((few_ended s now r k c none).mp hFew)
  | booked hCall hCurrent hBooks =>
    rw [hSound.current_iff hEpoch hCall] at hCurrent
    exact h.booked hSound hCall hCurrent hBooks
  | stateRead => exact h
  | countsRead =>
    refine ⟨hRecorded, fun hClosed hFew => ?_⟩
    change streak .failure ((r.machine.counter.expire now).recent now r.history) < s.threshold
    rw [Window.recent_expire]
    exact h.below hClosed hFew

end Holding

theorem holding_invariant (s : BreakerSettings) (created : Instant) :
    TimedInvariant s created (Holding s created) where
  create := .create s created
  later hLater h := h.later hLater
  preserved now :=
    { renewed := fun state hSound h => .renewed hSound h.recorded.window now state
      acts := fun hSound hEpoch h hActs => h.acts hSound hEpoch hActs }

theorem Few.refreshed {s : BreakerSettings} {w : Session} (hFew : Few s w) (hSound : Sound w)
    (now : Instant) : Few s (w.refreshed s now) := by
  have hElapses := elapses_refreshed s now w
  generalize w.refreshed s now = r, w.elapsed s now = signals at hElapses ⊢
  have hNone := hSound.marks_later (Nat.lt_succ_self w.epoch) (· == .admitted)
  cases hElapses with
  | still => exact hFew
  | window | probing =>
    intro _
    exact Nat.lt_of_le_of_lt (Nat.le_of_eq hNone) (by decide)

theorem Holding.counts_below {s : BreakerSettings} {created : Instant} {x : Step}
    {w w' : Session} {report : Report} {counts : Counts}
    (h : Holding s created x.time (w.refreshed s x.time)) (hSound : Sound w) (hFew : Few s w)
    (hPerforms : Performs s x w w' report) (hAnswer : report.answer = .counts counts)
    (hClosed : w'.machine.state = .closed) :
    counts.consecutiveFailures.toNat < s.threshold := by
  have hFew' := hFew.refreshed hSound x.time
  cases hPerforms with
  | idle | reset => cases hAnswer
  | acts hActs =>
    obtain ⟨now, action⟩ := x
    cases hAnswer
    cases hActs with
    | countsRead =>
      have hBelow := h.below hClosed hFew'
      rw [h.recorded.countsAt hSound.refreshed hFew', Counts.ofEvents_eq, toNat_saturated]
      omega

/-- A step opens a closed machine exactly if it ends a call of the present generation with a
failure, and with it the outcomes that count end with as many failures in a row as the settings
ask for. In every closed machine the streak that is reported is shorter. -/
theorem opens_iff_failures_in_a_row (s : BreakerSettings) (created : Instant) (steps : List Step)
    (x : Step) (hOrder : InOrder created (steps ++ [x]))
    (hEpoch : (run s created (steps ++ [x])).epoch < 2 ^ 64)
    (hFew : s.isRolling = true → (run s created steps).admissions < 2 ^ 32)
    (hRange : s.InRange created x.time) :
    ((run s created steps).machine.state = .closed ∧
          (run s created (steps ++ [x])).machine.state = .opened ↔
        (run s created steps).machine.state = .closed ∧
          ∃ k c, x.action = .settle k (some .failure) ∧ (run s created steps).call? k = some c ∧
            c.epoch = ((run s created steps).refreshed s x.time).epoch ∧
            List.replicate s.threshold Event.failure <:+
              ((run s created steps).refreshed s x.time).outcomes s created x.time ++
                [.failure]) ∧
      ∀ counts, ((run s created steps).perform s x).2.answer = .counts counts →
        (run s created (steps ++ [x])).machine.state = .closed →
        counts.consecutiveFailures.toNat < s.threshold := by
  rw [run_append_singleton] at hEpoch ⊢
  obtain ⟨hBefore, hStart, hTimes⟩ := inOrder_append_singleton.mp hOrder
  have hPerforms := performs_perform s x (run s created steps)
  have hSound := Sound.run (s := s) created steps
  have hHolding := (holding_invariant s created).run steps hBefore hStart hTimes
    (Nat.lt_of_le_of_lt hPerforms.epoch_le hEpoch)
  generalize run s created steps = w at *
  have hRefreshed := ((holding_invariant s created).preserved x.time).elapses
    (elapses_refreshed s x.time w) hSound hHolding
  have hSound' : Sound (w.refreshed s x.time) := hSound.refreshed
  have hFew' : Few s (w.refreshed s x.time) := Few.refreshed hFew hSound x.time
  refine ⟨and_congr_right fun hClosed => ?_, fun counts =>
    hRefreshed.counts_below hSound hFew hPerforms⟩
  rw [hPerforms.opens_iff hClosed]
  refine exists_congr fun k => exists_congr fun c => and_congr_right fun hAction =>
    and_congr_right fun hCall => ?_
  have hCall' : (w.refreshed s x.time).call? k = some c := hCall
  have hPresent := Nat.lt_of_le_of_lt (hPerforms.refreshed_epoch_le hAction hCall) hEpoch
  rw [hSound'.current_iff hPresent hCall']
  refine and_congr_right fun hCurrent => ?_
  exact hRefreshed.recorded.threshold_le_iff hSound' hFew' hRange hCall' hCurrent

def tenSeconds : BreakerSettings :=
  { BreakerSettings.standard with
    closedWindowIntervalMs := 10000
    bucketPeriodMs := 1000
    consecutiveFailureThreshold := 2 }

def sideBySide : List Step := [⟨0, .start⟩, ⟨0, .start⟩, ⟨500000000, .settle 0 (some .failure)⟩]

def secondFails (t : Instant) : Step := ⟨t, .settle 1 (some .failure)⟩

/-- The failure of the second call opens as long as the first one is remembered. -/
theorem opens_iff_failures_in_a_row_sideBySide :
    (InOrder 0 (sideBySide ++ [secondFails 9500000000]) ∧
        (run tenSeconds 0 (sideBySide ++ [secondFails 9500000000])).epoch < 2 ^ 64 ∧
        (tenSeconds.isRolling = true → (run tenSeconds 0 sideBySide).admissions < 2 ^ 32) ∧
        tenSeconds.InRange 0 9500000000) ∧
      (run tenSeconds 0 (sideBySide ++ [secondFails 9500000000])).machine.state = .opened ∧
      (run tenSeconds 0 (sideBySide ++ [secondFails 10000000000])).machine.state = .closed ∧
      List.replicate 2 Event.failure <:+
        ((run tenSeconds 0 sideBySide).refreshed tenSeconds 9500000000).outcomes tenSeconds 0
          9500000000 ++ [.failure] := by
  have hOrder : InOrder 0 (sideBySide ++ [secondFails 9500000000]) := by decide
  have hEpoch : (run tenSeconds 0 (sideBySide ++ [secondFails 9500000000])).epoch < 2 ^ 64 := by
    decide
  have hFew : tenSeconds.isRolling = true → (run tenSeconds 0 sideBySide).admissions < 2 ^ 32 :=
    fun _ => by decide
  have hRange : tenSeconds.InRange 0 9500000000 := fun _ => by decide
  have hOpened : (run tenSeconds 0 (sideBySide ++ [secondFails 9500000000])).machine.state =
      .opened := by decide
  have hOpens := (opens_iff_failures_in_a_row tenSeconds 0 sideBySide _ hOrder hEpoch hFew hRange).1
  obtain ⟨_, k, c, _, _, _, hRow⟩ := hOpens.mp ⟨by decide, hOpened⟩
  exact ⟨⟨hOrder, hEpoch, hFew, hRange⟩, hOpened, by decide, hRow⟩

end CallGuard.Session
