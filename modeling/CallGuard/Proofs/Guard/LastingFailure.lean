import CallGuard.Guard
import CallGuard.Proofs.Breaker.Streaks
import CallGuard.Proofs.Retry.Visits

/-!
# Guards of operations that only fail

Each failure of an operation adds to the streak that its breaker counts, until there are enough
of them and the breaker opens. The next attempt is refused, and a refusal is not retried: so the
attempts end with the policy of the retrier or with the threshold of the breaker, whichever comes
first.
-/

namespace CallGuard

/-- How many attempts a policy allows; the first one is always made. -/
def RetryPolicy.limit (p : RetryPolicy) : Nat := max 1 p.maxAttempts.toNat

theorem RetryPolicy.waitCount_succ (p : RetryPolicy) : p.waitCount + 1 = p.limit := by
  unfold waitCount limit
  omega

namespace Machine

/-- What so many failures, and nothing else, make of a new machine without a window: it counts
them, or the last of them has opened it. -/
inductive Worn (s : BreakerSettings) (opening : Instant) (n : Nat) (m : Machine) : Prop where
  | closed (hFew : n < s.threshold) (hStreak : m.Streak n)
  | opened (hFull : n = s.threshold) (hTripped : m.Tripped s opening)

section Wearing

variable {s : BreakerSettings} {opening now ended : Instant} {n : Nat} {m : Machine}

namespace Streak

theorem booked (h : m.Streak n) (hFew : n < s.threshold)
    (hOpening : n + 1 = s.threshold → now = opening) :
    (m.bookFailure s now).1.Worn s opening (n + 1) := by
  rw [bookFailure_closed s now h.closed, h.streakAfterFailure_eq hFew]
  split
  · next hEnough =>
    have hLast : n + 1 = s.threshold := by omega
    refine .opened hLast ⟨rfl, ?_⟩
    rw [← hOpening hLast]
    rfl
  · next hShort =>
    exact .closed (Nat.lt_of_not_le hShort) (h.afterFailure hFew now)

/-- The failure of a call that it admits adds to the streak, and opens it at the threshold. -/
theorem failed (h : m.Streak n) (hFew : n < s.threshold) (now : Instant)
    (hOpening : n + 1 = s.threshold → ended = opening) :
    ((m.count now).settle s ended ⟨m.generation⟩ (some .failure)).1.Worn s opening (n + 1) := by
  have hAdmitted := h.admitted now
  have hKept : (m.count now).release = m.count now :=
    if_neg (by rw [hAdmitted.closed]; decide)
  have hGeneration : (⟨m.generation⟩ : Permit).generation = (m.count now).generation := rfl
  rw [settle, hAdmitted.refresh_eq s ended]
  simp only [if_pos hGeneration, hKept]
  exact hAdmitted.booked hFew hOpening

end Streak

theorem Worn.streak (h : m.Worn s opening n) (hFew : n < s.threshold) : m.Streak n := by
  cases h with
  | closed _ hStreak => exact hStreak
  | opened hFull => exact absurd hFull (Nat.ne_of_lt hFew)

theorem Worn.tripped (h : m.Worn s opening s.threshold) : m.Tripped s opening := by
  cases h with
  | closed hFew => exact absurd hFew (Nat.lt_irrefl _)
  | opened _ hTripped => exact hTripped

end Wearing

end Machine

namespace Breaker

variable {α : Type} {s : BreakerSettings} {classifier : Classifier} {opening now : Instant}
variable {n : Nat} {m : Machine} {operation : Operation α} {fault : Fault}

theorem callAmong_failed (h : m.Streak n) (hFew : n < s.threshold)
    (hOpening : n + 1 = s.threshold → (operation now).2 = opening)
    (hFault : (operation now).1 = .error fault) (hCounted : classifier fault = .counted) :
    ∃ m' : Machine, ∃ notices, m'.Worn s opening (n + 1) ∧
      (stateful s classifier m).callAmong .none now operation =
        ⟨.error (.operation fault), true, (operation now).2, stateful s classifier m',
          notices⟩ := by
  have hEnter : m.enter s now = (.ok ⟨m.generation⟩, m.count now, []) := by
    rw [Machine.enter, h.refresh_eq]
    simp only [(m.rejection?_eq_none_iff s).mpr (.inl h.closed)]
  have hOutcome : outcomeOf classifier (Except.error (α := α) fault) = .failure := by
    simp [outcomeOf, hCounted]
  refine ⟨_, ((stateful s classifier m).callAmong .none now operation).notices,
    h.failed hFew now hOpening, ?_⟩
  simp only [callAmong, start, hEnter, finish, Bystanders.none, hFault, hOutcome]
  rfl

theorem callAmong_refused (classifier : Classifier) (operation : Operation α)
    (h : m.Tripped s opening) (hEarly : now < opening + s.openTimeout.nanos) :
    ∃ notices, (stateful s classifier m).callAmong .none now operation =
      ⟨.error (.opened s.name), false, now, stateful s classifier m, notices⟩ := by
  have hEnter : m.enter s now = (.error .opened, m, []) := by
    rw [Machine.enter, h.refresh_eq hEarly]
    simp [Machine.rejection?, h.opened]
  refine ⟨((stateful s classifier m).callAmong .none now operation).notices, ?_⟩
  simp only [callAmong, start, hEnter]
  rfl

theorem closed_of_streak (h : m.Streak n) (now : Instant) :
    ((stateful s classifier m).state now).1 = .closed ∧
      ((stateful s classifier m).counts now).1.consecutiveFailures.toNat = n := by
  obtain ⟨counts, hCounter, hLength⟩ := h.counted
  simp [state, Breaker.counts, Machine.readState, Machine.readCounts, h.refresh_eq, h.closed,
    hCounter, Window.read, Window.countsAt, hLength]

theorem opened_of_tripped (h : m.Tripped s opening) (hEarly : now < opening + s.openTimeout.nanos) :
    ((stateful s classifier m).state now).1 = .opened := by
  simp [state, Machine.readState, h.refresh_eq hEarly, h.opened]

end Breaker

namespace Guard

variable {α : Type}

section Timeline

variable (r : Retrier) (draws : Nat → Nat) (operation : Nat → Operation α) (now : Instant)

def attemptBegins : Nat → Instant
  | 0 => now
  | n + 1 => Instant.wake (operation n (attemptBegins n)).2 (Retry.delayAfter r draws n)

def attemptEnds (n : Nat) : Instant := (operation n (attemptBegins r draws operation now n)).2

end Timeline

/-- Each time the operation is run it fails, with a fault that both classifiers count. -/
def AlwaysFails (classifier wants : Classifier) (operation : Nat → Operation α) : Prop :=
  ∀ n t, ∃ fault, (operation n t).1 = .error fault ∧ classifier fault = .counted ∧
    wants fault = .counted

section Running

variable (s : BreakerSettings) (classifier wants : Classifier) (r : Retrier) (draws : Nat → Nat)
variable (operation : Nat → Operation α) (now : Instant)

structure Meets (v : Retry.Visit Progress) (m : Machine) : Prop where
  began : v.began = attemptBegins r draws operation now v.number
  found : v.found.breaker = .stateful s classifier m
  worn : m.Worn s (attemptEnds r draws operation now (s.threshold - 1)) v.number

/-- How a visit ends: below the threshold the operation fails once more, and at the threshold the
breaker refuses it. -/
inductive Fares (v : Retry.Visit Progress) (m : Machine) : Prop where
  | failed {m' : Machine} {notices : List Notice} (hFew : v.number < s.threshold)
      (hWorn : m'.Worn s (attemptEnds r draws operation now (s.threshold - 1)) (v.number + 1))
      (hAsked : v.asked (subject wants .none operation) =
        (true, ⟨.stateful s classifier m', notices, v.found.invocations ++ [v.call]⟩))
      (hResult : v.result (subject wants .none operation) =
        (operation v.number (attemptBegins r draws operation now v.number)).1.mapError .operation)
      (hFinished : v.finished (subject wants .none operation) =
        attemptEnds r draws operation now v.number)
  | refused {notices : List Notice} (hFull : v.number = s.threshold)
      (hAsked : v.asked (subject wants .none operation) =
        (false, ⟨.stateful s classifier m, notices, v.found.invocations⟩))
      (hResult : v.result (subject wants .none operation) = .error (.opened s.name))
      (hFinished : v.finished (subject wants .none operation) =
        attemptBegins r draws operation now s.threshold)

/-- What is left of a run from an attempt on, if the policy allows `limit` attempts in all: those
below the threshold are made, and the one at the threshold is refused. -/
structure Stops (limit first : Nat) (before : List (Nat × Instant))
    (e : Retry.Ended Progress (Except CallError α)) : Prop where
  invocations : e.state.invocations = before ++
    (List.range' first (min limit s.threshold - first)).map fun n =>
      (n, attemptBegins r draws operation now n)
  result : e.result = some (if limit ≤ s.threshold then
      (operation (limit - 1) (attemptBegins r draws operation now (limit - 1))).1.mapError
        .operation
    else .error (.opened s.name))
  finished : e.finished = if limit ≤ s.threshold then attemptEnds r draws operation now (limit - 1)
    else attemptBegins r draws operation now s.threshold
  breaker : ∃ m : Machine,
    m.Worn s (attemptEnds r draws operation now (s.threshold - 1)) (min limit s.threshold) ∧
      e.state.breaker = .stateful s classifier m

variable {s classifier wants r draws operation now}
variable {limit left : Nat} {m : Machine} {known : Option Instant} {v : Retry.Visit Progress}
variable {vs : List (Retry.Visit Progress)} {e : Retry.Ended Progress (Except CallError α)}

theorem Meets.fares (h : Meets s classifier r draws operation now v m)
    (hFails : AlwaysFails classifier wants operation)
    (hShort : v.number = s.threshold → attemptBegins r draws operation now s.threshold <
      attemptEnds r draws operation now (s.threshold - 1) + s.openTimeout.nanos) :
    Fares s classifier wants r draws operation now v m := by
  obtain ⟨hBegan, hFound, hWorn⟩ := h
  obtain ⟨hFew, hStreak⟩ | ⟨hFull, hTripped⟩ := hWorn
  · obtain ⟨fault, hFault, hCounted, hWanted⟩ := hFails v.number v.began
    have hOpening : v.number + 1 = s.threshold → (operation v.number v.began).2 =
        attemptEnds r draws operation now (s.threshold - 1) := by
      intro hLast
      rw [← hLast, hBegan]
      rfl
    obtain ⟨m', notices, hWorn', hCalled⟩ :=
      Breaker.callAmong_failed hStreak hFew hOpening hFault hCounted
    have hAsked : v.asked (subject wants .none operation) = (true,
        ⟨.stateful s classifier m', v.found.notices ++ notices,
          v.found.invocations ++ [v.call]⟩) := by
      simp [Retry.Visit.asked, Retry.Subject.asked, subject, hFound, hCalled, wantsRetry, hWanted,
        Retry.Visit.call]
    refine .failed hFew hWorn' hAsked ?_ ?_
    · rw [← hBegan, hFault]
      simp [Retry.Visit.result, subject, hFound, hCalled, Except.mapError]
    · rw [attemptEnds, ← hBegan]
      simp [Retry.Visit.finished, Retry.Subject.finished, subject, hFound, hCalled]
  · have hEarly := hShort hFull
    rw [← hFull, ← hBegan, hFull] at hEarly
    obtain ⟨notices, hCalled⟩ :=
      Breaker.callAmong_refused classifier (operation v.number) hTripped hEarly
    have hAsked : v.asked (subject wants .none operation) = (false,
        ⟨.stateful s classifier m, v.found.notices ++ notices, v.found.invocations⟩) := by
      simp [Retry.Visit.asked, Retry.Subject.asked, subject, hFound, hCalled, wantsRetry]
    refine .refused hFull hAsked ?_ ?_
    · simp [Retry.Visit.result, subject, hFound, hCalled]
    · rw [← hFull, ← hBegan]
      simp [Retry.Visit.finished, Retry.Subject.finished, subject, hFound, hCalled]

/-- Nobody uses the breaker while the run sleeps. -/
theorem found_next_alone (wants : Classifier) (operation : Nat → Operation α) (name : String)
    (v : Retry.Visit Progress) (delay : Span) :
    (v.next (subject wants .none operation) name delay).found.breaker =
        (v.asked (subject wants .none operation)).2.breaker ∧
      (v.next (subject wants .none operation) name delay).found.invocations =
        (v.asked (subject wants .none operation)).2.invocations :=
  ⟨rfl, rfl⟩

theorem Stops.preceded {delay : Span} {before : List (Nat × Instant)} {n : Nat}
    (hFew : n < s.threshold) (hLess : n < limit)
    (h : Stops s classifier r draws operation now limit (n + 1)
      (before ++ [(n, attemptBegins r draws operation now n)]) e) :
    Stops s classifier r draws operation now limit n before (e.preceded v.call delay) where
  invocations := by
    have hMore : min limit s.threshold - n = min limit s.threshold - (n + 1) + 1 := by omega
    have hLater := h.invocations
    rw [List.append_assoc] at hLater
    rw [hMore, List.range'_succ]
    exact hLater
  result := h.result
  finished := h.finished
  breaker := h.breaker

theorem sleepAfter_never (hKnown : known = none) :
    Retry.sleepAfter r draws .never (subject wants .none operation) known v = .done := by
  subst hKnown
  rfl

theorem stops_of_proceeds (hFails : AlwaysFails classifier wants operation)
    (hShort : s.threshold < limit → attemptBegins r draws operation now s.threshold <
      attemptEnds r draws operation now (s.threshold - 1) + s.openTimeout.nanos)
    (h : Retry.Proceeds r draws .never (subject wants .none operation) left known v vs e)
    (hKnown : known = none) (hLimit : v.number + left + 1 = limit)
    (hMeets : Meets s classifier r draws operation now v m) :
    Stops s classifier r draws operation now limit v.number v.found.invocations e := by
  -- On the rest of the run: each visit hands on to the next one that it meets the breaker as worn
  -- as its number says.
  induction h generalizing m with
  | @declined left known v hDeclined =>
    obtain ⟨hFew, _, hAsked⟩ | ⟨hFull, hAsked, hResult, hFinished⟩ :=
      hMeets.fares hFails fun hFull => hShort (by omega)
    · rw [hAsked] at hDeclined
      cases hDeclined
    · have hBeyond : ¬ limit ≤ s.threshold := by omega
      constructor
      case invocations => simp [hAsked, hFull]
      case result => rw [if_neg hBeyond, hResult]
      case finished => rw [if_neg hBeyond, hFinished]
      case breaker =>
        have hWorn := hMeets.worn
        rw [hFull] at hWorn
        rw [hAsked, Nat.min_eq_right (Nat.le_of_not_le hBeyond)]
        exact ⟨m, hWorn, rfl⟩
  | @exhausted known v hWanted =>
    obtain ⟨hFew, hWorn, hAsked, hResult, hFinished⟩ | ⟨_, hAsked⟩ :=
      hMeets.fares hFails fun hFull => hShort (by omega)
    · have hWithin : limit ≤ s.threshold := by omega
      have hLast : limit - 1 = v.number := by omega
      constructor
      case invocations =>
        have hOne : min limit s.threshold - v.number = 1 := by omega
        change (v.asked (subject wants .none operation)).2.invocations = _
        rw [hOne, hAsked]
        simp [Retry.Visit.call, hMeets.began]
      case result => rw [if_pos hWithin, hLast, hResult]
      case finished => rw [if_pos hWithin, hLast, hFinished]
      case breaker =>
        refine ⟨_, ?_, by rw [hAsked]; rfl⟩
        rw [Nat.min_eq_left hWithin, ← hLimit]
        exact hWorn
    · rw [hAsked] at hWanted
      cases hWanted
  | interrupted _ hSleep | late _ hSleep =>
    rw [sleepAfter_never hKnown] at hSleep
    cases hSleep
  | @again left known v vs e hWanted _ _ ih =>
    obtain ⟨hFew, hWorn, hAsked, hResult, hFinished⟩ | ⟨_, hAsked⟩ :=
      hMeets.fares hFails fun hFull => hShort (by omega)
    · obtain ⟨hBreaker, hInvocations⟩ :=
        found_next_alone wants operation r.name v (Retry.delayAfter r draws v.number)
      have hBegins : (v.next (subject wants .none operation) r.name
          (Retry.delayAfter r draws v.number)).began =
          attemptBegins r draws operation now (v.number + 1) :=
        congrArg (Instant.wake · (Retry.delayAfter r draws v.number)) hFinished
      rw [hAsked] at hBreaker hInvocations
      have hNumbers : v.number + 1 + left + 1 = limit := by omega
      have hRest := ih hKnown hNumbers ⟨hBegins, hBreaker, hWorn⟩
      rw [hInvocations, Retry.Visit.call, hMeets.began] at hRest
      exact hRest.preceded hFew (by omega)
    · rw [hAsked] at hWanted
      cases hWanted

theorem stops_of_course (hFails : AlwaysFails classifier wants operation)
    (hShort : s.threshold < r.policy.limit → attemptBegins r draws operation now s.threshold <
      attemptEnds r draws operation now (s.threshold - 1) + s.openTimeout.nanos)
    {start : Progress} (hStart : start.breaker = .stateful s classifier m)
    (hNew : m.Worn s (attemptEnds r draws operation now (s.threshold - 1)) 0)
    (h : Retry.Course r draws .never (subject wants .none operation) now start vs e) :
    Stops s classifier r draws operation now r.policy.limit 0 start.invocations e := by
  have hAll : 0 + r.policy.waitCount + 1 = r.policy.limit := by
    rw [Nat.zero_add, r.policy.waitCount_succ]
  have hMeets : Meets s classifier r draws operation now ⟨0, now, start⟩ m := ⟨rfl, hStart, hNew⟩
  cases h with
  | unbegun _ hCancelled => cases hCancelled
  | begun _ _ hProceeds => exact stops_of_proceeds hFails hShort hProceeds rfl hAll hMeets
  | once hDisabled =>
    rw [RetryPolicy.waitCount_eq_zero hDisabled] at hAll
    have hLess := s.threshold_pos
    -- Such a run does not ask for another attempt, but it ends as if it had and none was left.
    cases hMeets.fares hFails fun hFull => absurd hFull (Nat.ne_of_lt hLess) with
    | refused hFull => exact absurd hFull (Nat.ne_of_lt hLess)
    | failed _ _ hAsked =>
      have hLast : Retry.Proceeds r draws .never (subject wants .none operation) 0 none
          ⟨0, now, start⟩ _ _ := .exhausted (congrArg Prod.fst hAsked)
      have hExhausted := stops_of_proceeds hFails hShort hLast rfl hAll hMeets
      exact ⟨hExhausted.invocations, hExhausted.result, hExhausted.finished, hExhausted.breaker⟩

end Running

/-- A guarded call of an operation that only fails makes as many attempts as its policy allows, or
as many as the threshold of its new breaker if these are fewer, and no more. It fails with the last
error, or because the breaker is open; the breaker has counted all failures, or it is open. -/
theorem call_stops (s : BreakerSettings) (classifier wants : Classifier) (r : Retrier)
    (draws : Nat → Nat) (operation : Nat → Operation α) (created now : Instant)
    (hEnabled : s.enabled = true) (hEndless : s.closedWindowIntervalMs = 0)
    (hFails : AlwaysFails classifier wants operation)
    (hShort : s.threshold < r.policy.limit →
      attemptBegins r draws operation now s.threshold -
        attemptEnds r draws operation now (s.threshold - 1) < s.openTimeout.nanos) :
    let ended := call ⟨(Breaker.create s classifier created).1, r, wants⟩ draws .never operation now
    ended.state.invocations = (List.range (min r.policy.limit s.threshold)).map (fun n =>
        (n, attemptBegins r draws operation now n)) ∧
      (r.policy.limit ≤ s.threshold → resultOf ended =
        (operation (r.policy.limit - 1)
          (attemptBegins r draws operation now (r.policy.limit - 1))).1.mapError .operation) ∧
      (s.threshold < r.policy.limit → resultOf ended = .error (.opened s.name)) ∧
      (r.policy.limit < s.threshold → ∀ later,
        (ended.state.breaker.state later).1 = .closed ∧
        (ended.state.breaker.counts later).1.consecutiveFailures.toNat = r.policy.limit) ∧
      (s.threshold ≤ r.policy.limit →
        (ended.state.breaker.state ended.finished).1 = .opened ∧
        ∀ later, later - attemptEnds r draws operation now (s.threshold - 1) <
          s.openTimeout.nanos → (ended.state.breaker.state later).1 = .opened) := by
  have hBreaker : (Breaker.create s classifier created).1 =
      .stateful s classifier (.create s created) := by
    rw [Breaker.create, if_pos hEnabled]
  have hCourse := Retry.course_run r draws .never (subject wants .none operation) now
    ⟨(Breaker.create s classifier created).1, [], []⟩
  have hStops : Stops s classifier r draws operation now r.policy.limit 0 []
      (call ⟨(Breaker.create s classifier created).1, r, wants⟩ draws .never operation now) :=
    stops_of_course hFails (fun hMore => Int.lt_add_of_sub_left_lt (hShort hMore)) hBreaker
      (.closed s.threshold_pos (.create hEndless created)) hCourse
  obtain ⟨m, hWorn, hLeft⟩ := hStops.breaker
  have hTimeout := s.openTimeout_pos
  refine ⟨?_, ?_, ?_, ?_, ?_⟩
  · rw [hStops.invocations, List.nil_append, Nat.sub_zero, List.range_eq_range']
  · intro hWithin
    rw [resultOf, hStops.result, if_pos hWithin, Option.getD_some]
  · intro hMore
    rw [resultOf, hStops.result, if_neg (Nat.not_le_of_lt hMore), Option.getD_some]
  · intro hFew later
    rw [Nat.min_eq_left (Nat.le_of_lt hFew)] at hWorn
    rw [hLeft]
    exact Breaker.closed_of_streak (hWorn.streak hFew) later
  · intro hEnough
    rw [Nat.min_eq_right hEnough] at hWorn
    have hOpened : ∀ later, later - attemptEnds r draws operation now (s.threshold - 1) <
        s.openTimeout.nanos → ((Breaker.stateful s classifier m).state later).1 = .opened :=
      fun later hEarly => Breaker.opened_of_tripped hWorn.tripped (Int.lt_add_of_sub_left_lt hEarly)
    rw [hLeft]
    refine ⟨hOpened _ ?_, hOpened⟩
    rw [hStops.finished]
    split
    · next hWithin =>
      have hLast : r.policy.limit - 1 = s.threshold - 1 := by omega
      rw [hLast, Int.sub_self]
      exact Int.natCast_pos.mpr hTimeout
    · next hMore => exact hShort (Nat.lt_of_not_le hMore)

def threeFailures : BreakerSettings :=
  { BreakerSettings.standard with consecutiveFailureThreshold := 3 }

def counting (_ : Fault) : Verdict := .counted

def down (_ : Nat) : Operation Nat := fun now => (.error (.plain "down"), now + 5000000)

/-- Of five attempts three are made; the fourth one comes while the breaker is open. -/
theorem call_stops_down :
    let ended := call ⟨(Breaker.create threeFailures counting 0).1, Retry.fiveAttempts, counting⟩
      id .never down 0
    (threeFailures.enabled = true ∧ threeFailures.closedWindowIntervalMs = 0 ∧
        AlwaysFails counting counting down) ∧
      (threeFailures.threshold < Retry.fiveAttempts.policy.limit ∧
        attemptBegins Retry.fiveAttempts id down 0 3 - attemptEnds Retry.fiveAttempts id down 0 2 <
          threeFailures.openTimeout.nanos) ∧
      ended.state.invocations = [(0, 0), (1, 105000000), (2, 310000000)] ∧
      resultOf ended = .error (.opened "default") ∧
      (ended.state.breaker.state ended.finished).1 = .opened := by
  have hFails : AlwaysFails counting counting down := fun _ _ => ⟨_, rfl, rfl, rfl⟩
  have hShort : attemptBegins Retry.fiveAttempts id down 0 3 -
      attemptEnds Retry.fiveAttempts id down 0 2 < threeFailures.openTimeout.nanos := by
    decide +kernel
  obtain ⟨hInvocations, -, hRefused, -, hOpened⟩ := call_stops threeFailures counting counting
    Retry.fiveAttempts id down 0 0 rfl rfl hFails fun _ => hShort
  have hBegins : (List.range 3).map (fun n => (n, attemptBegins Retry.fiveAttempts id down 0 n)) =
      [(0, 0), (1, 105000000), (2, 310000000)] := by
    decide +kernel
  exact ⟨⟨rfl, rfl, hFails⟩, ⟨by decide, hShort⟩, hInvocations.trans hBegins,
    hRefused (by decide), (hOpened (by decide)).1⟩

end Guard

end CallGuard
