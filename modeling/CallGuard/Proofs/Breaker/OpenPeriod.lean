import CallGuard.Breaker.Call
import CallGuard.Proofs.Breaker.Recording

/-!
# The open period

A machine that opens at `t` refuses every call until `t` and its timeout have passed and admits
the first one after that as a probe. Until then nothing is counted, and neither the ends of
earlier calls nor readings nor refused calls move the end of the period.
-/

namespace CallGuard

namespace Window

variable {w : Window} (now : Instant)

theorem expire_of_clear (hClear : w.clear = w) : w.expire now = w := by
  rw [← hClear]
  cases w <;> rfl

theorem countsAt_of_clear (hClear : w.clear = w) : w.countsAt now = Counts.zero := by
  rw [← hClear]
  cases w <;> rfl

end Window

namespace Session

variable {s : BreakerSettings} {ending now : Instant} {w : Session}

theorem Performs.start_of_admitted {x : Step} {w' : Session} {report : Report}
    (hPerforms : Performs s x w w' report) (hAdmitted : report.answer = .admitted) :
    x.action = .start := by
  obtain ⟨time, action⟩ := x
  cases hPerforms with
  | idle | reset => cases hAdmitted
  | acts hActs =>
    cases hActs with
    | admitted => rfl
    | _ => cases hAdmitted

theorem Performs.opens {x : Step} {w' : Session} {report : Report} {source : State}
    (hPerforms : Performs s x w w' report) (hSound : Sound w)
    (hOpens : Signal.changed source .opened ∈ report.signals) :
    ∃ r, Sound r ∧ w' = r.renewed s x.time .opened := by
  cases hPerforms with
  | idle => cases hOpens
  | reset =>
    dsimp only at hOpens
    split at hOpens <;> simp at hOpens
  | acts hActs =>
    obtain ⟨now, action⟩ := x
    rcases List.mem_append.mp hOpens with hElapsed | hActed
    · have hElapses := elapses_refreshed s now w
      generalize w.refreshed s now = r, w.elapsed s now = signals at hElapses hElapsed
      cases hElapses <;> simp at hElapsed
    · cases hActs with
      | @booked k c o m signals hCall _ hBooks =>
        refine ⟨(w.refreshed s now).ended now k c (some o), hSound.refreshed.ended hCall _, ?_⟩
        rcases hBooks.stays_or_moves with ⟨rfl, _⟩ | ⟨target, rfl, rfl⟩
        · cases hActed
        · cases List.mem_singleton.mp hActed
          rw [Machine.renew_release]
          rfl
      | _ => cases hActed

/-- A machine that has opened has not admitted a call since. From `ending` on a look at it makes
it half-open, and then it has all its slots. -/
structure Unprobed (ending now : Instant) (w : Session) : Prop where
  phase : w.machine.state = .opened ∧ w.machine.expiry = some ending ∨
    w.machine.state = .halfOpen ∧ ending ≤ now ∧
      w.machine.probesInFlight = 0 ∧ w.machine.probeSuccesses = 0
  empty : w.machine.counter.clear = w.machine.counter
  admissions : w.admissions = 0

namespace Unprobed

theorem renewed (hSound : Sound w) {state : State}
    (hPhase : state = .opened ∧ Machine.phaseEnd s now .opened = some ending ∨
      state = .halfOpen ∧ ending ≤ now) :
    Unprobed ending now (w.renewed s now state) where
  phase := by
    rcases hPhase with ⟨rfl, hEnd⟩ | ⟨rfl, hPast⟩
    · exact .inl ⟨rfl, hEnd⟩
    · exact .inr ⟨rfl, hPast, rfl, rfl⟩
  empty := Window.clear_clear _
  admissions := hSound.marks_later (Nat.lt_succ_self w.epoch) (· == .admitted)

theorem later {later : Instant} (h : Unprobed ending now w) (hLater : now ≤ later) :
    Unprobed ending later w where
  phase := by
    rcases h.phase with hOpened | ⟨hHalf, hPast, hSlots⟩
    · exact .inl hOpened
    · exact .inr ⟨hHalf, Int.le_trans hPast hLater, hSlots⟩
  empty := h.empty
  admissions := h.admissions

theorem elapses {r : Session} {signals : List Signal} (hSound : Sound w)
    (h : Unprobed ending now w) (hElapses : Elapses s now w r signals) :
    Unprobed ending now r ∧ (r.machine.state = .opened ↔ now < ending) := by
  cases hElapses with
  | still hStill =>
    refine ⟨h, ?_⟩
    rcases h.phase with ⟨hOpened, hExpiry⟩ | ⟨hHalf, hPast, _⟩
    · simpa [Machine.isExpired, hOpened, hExpiry] using hStill
    · simp [hHalf, hPast]
  | window _ hClosed =>
    rcases h.phase with ⟨hOpened, _⟩ | ⟨hHalf, _⟩
    · cases hOpened.symm.trans hClosed
    · cases hHalf.symm.trans hClosed
  | probing hExpired hOpened =>
    rcases h.phase with ⟨_, hExpiry⟩ | ⟨hHalf, _⟩
    · have hPast : ending ≤ now := by simpa [Machine.isExpired, hExpiry] using hExpired
      exact ⟨.renewed hSound (.inr ⟨rfl, hPast⟩), by simp [hPast]⟩
    · cases hHalf.symm.trans hOpened

theorem acts {a : Action} {r r' : Session} {answer : Answer} {signals : List Signal}
    (hSound : Sound r) (hEpoch : r.epoch < 2 ^ 64) (h : Unprobed ending now r)
    (hActs : Acts s now r a r' answer signals) (hNone : answer ≠ .admitted) :
    Unprobed ending now r' := by
  cases hActs with
  | refused => exact ⟨h.phase, h.empty, h.admissions⟩
  | admitted => exact absurd rfl hNone
  | stale => exact ⟨h.phase, h.empty, (admissions_ended r _ _ _).trans h.admissions⟩
  | dropped hCall hCurrent | booked hCall hCurrent =>
    -- Without an admission in this generation there is no call of it to end.
    rw [hSound.current_iff hEpoch hCall] at hCurrent
    exact absurd hCurrent (hSound.not_current h.admissions hCall)
  | stateRead => exact h
  | countsRead =>
    refine ⟨h.phase, ?_, h.admissions⟩
    change (r.machine.counter.expire now).clear = r.machine.counter.expire now
    rw [Window.expire_of_clear now h.empty, h.empty]

theorem performs {x : Step} {w' : Session} {report : Report} (hSound : Sound w)
    (hEpoch : w'.epoch < 2 ^ 64) (h : Unprobed ending x.time w) (hNoReset : x.action ≠ .reset)
    (hPerforms : Performs s x w w' report) (hNone : report.answer ≠ .admitted) :
    Unprobed ending x.time w' := by
  cases hPerforms with
  | idle => exact h
  | reset hReset => exact absurd hReset hNoReset
  | acts hActs =>
    have hRefreshed := (h.elapses hSound (elapses_refreshed s x.time w)).1
    have hEpoch' := Nat.lt_of_le_of_lt hActs.epoch_le hEpoch
    exact hRefreshed.acts hSound.refreshed hEpoch' hActs hNone

/-- A call is refused as long as the period lasts and admitted as soon as it is over. -/
theorem answer_start (hSound : Sound w) (h : Unprobed ending now w) :
    (w.start s now).2.answer = if now < ending then .refused .opened else .admitted := by
  obtain ⟨hRefreshed, hOpened⟩ := h.elapses hSound (elapses_refreshed s now w)
  rw [start_answer]
  by_cases hBefore : now < ending
  · simp [hBefore, Machine.rejection?, hOpened.mpr hBefore]
  · obtain ⟨hState, _⟩ | ⟨hHalf, _, hInFlight, hSuccesses⟩ := hRefreshed.phase
    · exact absurd (hOpened.mp hState) hBefore
    · have hRoom : ¬ s.quota ≤ 0 := Nat.not_le_of_lt s.quota_pos
      simp [hBefore, Machine.rejection?, hHalf, hInFlight, hSuccesses, hRoom]

theorem answer_readCounts (hSound : Sound w) (h : Unprobed ending now w) :
    (w.readCounts s now).2.answer = .counts .zero := by
  obtain ⟨hRefreshed, _⟩ := h.elapses hSound (elapses_refreshed s now w)
  exact congrArg Answer.counts (Window.countsAt_of_clear now hRefreshed.empty)

theorem start_isProbe (hSound : Sound w) (h : Unprobed ending now w) (hOver : ending ≤ now) :
    ∃ c, (w.start s now).1.call? w.calls.length = some c ∧ c.isProbe = true := by
  obtain ⟨hRefreshed, hOpened⟩ := h.elapses hSound (elapses_refreshed s now w)
  have hAnswer : (w.start s now).2.answer = .admitted := by
    rw [h.answer_start hSound, if_neg (Int.not_lt.mpr hOver)]
  have hHalf : (w.refreshed s now).machine.state = .halfOpen := by
    obtain ⟨hState, _⟩ | ⟨hHalf, _⟩ := hRefreshed.phase
    · exact absurd hOver (Int.not_le.mpr (hOpened.mp hState))
    · exact hHalf
  have hPerforms := performs_start s now w
  generalize (w.start s now).1 = w', (w.start s now).2 = report at hPerforms hAnswer ⊢
  cases hPerforms with
  | idle hIdle => cases hIdle
  | reset hReset => cases hReset
  | acts hActs =>
    cases hActs with
    | refused => cases hAnswer
    | admitted =>
      refine ⟨_, call?_eq_some.mpr (List.getElem?_concat_length ..), ?_⟩
      simp [hHalf]

theorem run {created opened : Instant} {earlier later : List Step}
    (h : Unprobed ending opened (run s created earlier))
    (hOrder : InOrder created (earlier ++ later))
    (hEpoch : (Session.run s created (earlier ++ later)).epoch < 2 ^ 64)
    (hNoReset : ∀ y ∈ later, y.action ≠ .reset)
    (hNone : (∀ report ∈ reports s (Session.run s created earlier) later,
        report.answer ≠ .admitted) ∨
      ∀ y ∈ later, y.action = .start → y.time < ending)
    (hSince : ∀ y ∈ later, opened ≤ y.time) (hStart : opened ≤ now)
    (hNow : ∀ y ∈ later, y.time ≤ now) :
    Unprobed ending now (Session.run s created (earlier ++ later)) := by
  -- A start before the end is refused, so under either condition no step admits.
  induction later using List.reverseRecOn generalizing now with
  | nil => simpa using h.later hStart
  | append_singleton later y ih =>
    rw [← List.append_assoc] at hOrder hEpoch ⊢
    rw [run_append_singleton] at hEpoch ⊢
    rw [reports_append, ← run_append] at hNone
    simp only [List.forall_mem_append, List.forall_mem_singleton, reports] at *
    obtain ⟨hBefore, _, hTimes⟩ := inOrder_append_singleton.mp hOrder
    have hSound := Sound.run (s := s) created (earlier ++ later)
    have hPerforms := performs_perform s y (Session.run s created (earlier ++ later))
    have hPast := ih hBefore (Nat.lt_of_le_of_lt hPerforms.epoch_le hEpoch) hNoReset.1
      (hNone.imp And.left And.left) hSince.1 hSince.2 fun z hMem =>
        hTimes z (List.mem_append_right _ hMem)
    refine (hPast.performs hSound hEpoch hNoReset.2 hPerforms ?_).later hNow.2
    obtain ⟨_, hAnswer⟩ | ⟨_, hEarly⟩ := hNone
    · exact hAnswer
    · intro hAdmitted
      have hAction := hPerforms.start_of_admitted hAdmitted
      obtain ⟨time, action⟩ := y
      cases hAction
      rw [perform, hPast.answer_start hSound, if_pos (hEarly rfl)] at hAdmitted
      cases hAdmitted

end Unprobed

section Calling

variable {α : Type} (classifier : Classifier) (others : Bystanders) (operation : Operation α)

theorem callAmong_of_refused {reason : Rejection}
    (hRefused : (w.start s now).2.answer = .refused reason) :
    ((Breaker.stateful s classifier w.machine).callAmong others now operation).result =
        .error (.ofRejection s.name reason) ∧
      ((Breaker.stateful s classifier w.machine).callAmong others now operation).invoked =
        false := by
  unfold start at hRefused
  rcases hEnter : w.machine.enter s now with ⟨entered | permit, m, signals⟩
  · rw [hEnter] at hRefused
    cases hRefused
    simp [Breaker.callAmong, Breaker.start, hEnter]
  · rw [hEnter] at hRefused
    cases hRefused

theorem callAmong_of_admitted (hAdmitted : (w.start s now).2.answer = .admitted) :
    ((Breaker.stateful s classifier w.machine).callAmong others now operation).invoked =
      true := by
  unfold start at hAdmitted
  rcases hEnter : w.machine.enter s now with ⟨entered | permit, m, signals⟩
  · rw [hEnter] at hAdmitted
    cases hAdmitted
  · simp [Breaker.callAmong, Breaker.start, hEnter]

end Calling

structure OpenPeriod (s : BreakerSettings) (ending now : Instant) (opened : Session)
    (later : List Step) : Prop where
  refused : now < ending → ((opened.after s later).start s now).2.answer = .refused .opened
  uninvoked : now < ending → ∀ (α : Type) (classifier : Classifier) (others : Bystanders)
    (operation : Operation α),
    let called := (Breaker.stateful s classifier (opened.after s later).machine).callAmong others
      now operation
    called.result = .error (.opened s.name) ∧ called.invoked = false
  uncounted : (∀ report ∈ reports s opened later, report.answer ≠ .admitted) →
    ((opened.after s later).readCounts s now).2.answer = .counts .zero
  probed : ending ≤ now → (∀ y ∈ later, y.action = .start → y.time < ending) →
    ((opened.after s later).start s now).2.answer = .admitted ∧
      ∃ c, ((opened.after s later).start s now).1.call? (opened.after s later).calls.length =
        some c ∧ c.isProbe = true
  invoked : ending ≤ now → (∀ y ∈ later, y.action = .start → y.time < ending) →
    ∀ (α : Type) (classifier : Classifier) (others : Bystanders) (operation : Operation α),
    ((Breaker.stateful s classifier (opened.after s later).machine).callAmong others now
      operation).invoked = true

/-- A machine that opens stays open for its timeout, whatever happens short of a reset, and the
first call after that is a probe. -/
theorem open_period (s : BreakerSettings) (created now : Instant) (earlier later : List Step)
    (x : Step) (hOrder : InOrder created (earlier ++ [x] ++ later))
    (hNow : ∀ y ∈ x :: later, y.time ≤ now)
    (hEpoch : (run s created (earlier ++ [x] ++ later)).epoch < 2 ^ 64)
    (hOpens : ∃ source,
      Signal.changed source .opened ∈ ((run s created earlier).perform s x).2.signals)
    (hNoReset : ∀ y ∈ later, y.action ≠ .reset)
    (hClock : x.time + s.openTimeout.nanos ≤ Instant.latest) :
    OpenPeriod s (x.time + s.openTimeout.nanos) now (run s created (earlier ++ [x])) later := by
  obtain ⟨source, hSignal⟩ := hOpens
  have hSound := Sound.run (s := s) created (earlier ++ [x] ++ later)
  have hSince : ∀ y ∈ later, x.time ≤ y.time := fun y hMem => hOrder.le_of_mem (by simp) hMem
  obtain ⟨hStart, hTimes⟩ := List.forall_mem_cons.mp hNow
  have hOpened : Unprobed (x.time + s.openTimeout.nanos) x.time
      (run s created (earlier ++ [x])) := by
    rw [run_append_singleton]
    obtain ⟨r, hr, hRenewed⟩ := (performs_perform s x _).opens (.run created earlier) hSignal
    rw [hRenewed]
    exact .renewed hr (.inl ⟨rfl, if_pos hClock⟩)
  have hUnprobed : _ → Unprobed (x.time + s.openTimeout.nanos) now
      (run s created (earlier ++ [x] ++ later)) :=
    fun hNone => hOpened.run hOrder hEpoch hNoReset hNone hSince hStart hTimes
  have hEarly : now < x.time + s.openTimeout.nanos →
      ∀ y ∈ later, y.action = .start → y.time < x.time + s.openTimeout.nanos :=
    fun hBefore y hMem _ => Int.lt_of_le_of_lt (hTimes y hMem) hBefore
  have hRefused : now < x.time + s.openTimeout.nanos →
      ((run s created (earlier ++ [x] ++ later)).start s now).2.answer = .refused .opened := by
    intro hBefore
    rw [(hUnprobed (.inr (hEarly hBefore))).answer_start hSound, if_pos hBefore]
  have hProbed : x.time + s.openTimeout.nanos ≤ now →
      (∀ y ∈ later, y.action = .start → y.time < x.time + s.openTimeout.nanos) →
      ((run s created (earlier ++ [x] ++ later)).start s now).2.answer = .admitted := by
    intro hOver hFirst
    rw [(hUnprobed (.inr hFirst)).answer_start hSound, if_neg (Int.not_lt.mpr hOver)]
  rw [run_append s created (earlier ++ [x]) later] at hSound hUnprobed hRefused hProbed
  constructor
  case refused => exact hRefused
  case uninvoked =>
    intro hBefore α classifier others operation
    exact callAmong_of_refused classifier others operation (hRefused hBefore)
  case uncounted =>
    intro hNone
    exact (hUnprobed (.inl hNone)).answer_readCounts hSound
  case probed =>
    intro hOver hFirst
    exact ⟨hProbed hOver hFirst, (hUnprobed (.inr hFirst)).start_isProbe hSound hOver⟩
  case invoked =>
    intro hOver hFirst α classifier others operation
    exact callAmong_of_admitted classifier others operation (hProbed hOver hFirst)

def tripsAtOnce : BreakerSettings :=
  { BreakerSettings.standard with consecutiveFailureThreshold := 1, openTimeoutMs := 1000 }

def whileOpen : List Step :=
  [⟨500000000, .settle 1 (some .success)⟩, ⟨600000000, .start⟩, ⟨700000000, .readCounts⟩]

def bothStarted : List Step := [⟨0, .start⟩, ⟨0, .start⟩]

def firstFails : Step := ⟨0, .settle 0 (some .failure)⟩

theorem open_period_whileOpen :
    (InOrder 0 (bothStarted ++ [firstFails] ++ whileOpen) ∧
        (∀ y ∈ firstFails :: whileOpen, y.time ≤ 999999999) ∧
        (run tripsAtOnce 0 (bothStarted ++ [firstFails] ++ whileOpen)).epoch < 2 ^ 64 ∧
        Signal.changed .closed .opened ∈
          ((run tripsAtOnce 0 bothStarted).perform tripsAtOnce firstFails).2.signals ∧
        ∀ y ∈ whileOpen, y.action ≠ .reset) ∧
      OpenPeriod tripsAtOnce 1000000000 999999999
        (run tripsAtOnce 0 (bothStarted ++ [firstFails])) whileOpen ∧
      OpenPeriod tripsAtOnce 1000000000 1000000000
        (run tripsAtOnce 0 (bothStarted ++ [firstFails])) whileOpen := by
  have hOrder : InOrder 0 (bothStarted ++ [firstFails] ++ whileOpen) := by decide
  have hNow : ∀ y ∈ firstFails :: whileOpen, y.time ≤ 999999999 := by decide
  have hEpoch : (run tripsAtOnce 0 (bothStarted ++ [firstFails] ++ whileOpen)).epoch < 2 ^ 64 := by
    decide
  have hOpens : Signal.changed .closed .opened ∈
      ((run tripsAtOnce 0 bothStarted).perform tripsAtOnce firstFails).2.signals := by decide
  have hNoReset : ∀ y ∈ whileOpen, y.action ≠ .reset := by decide
  refine ⟨⟨hOrder, hNow, hEpoch, hOpens, hNoReset⟩, ?_, ?_⟩
  · exact open_period tripsAtOnce 0 999999999 bothStarted whileOpen firstFails hOrder hNow hEpoch
      ⟨.closed, hOpens⟩ hNoReset (by decide)
  · exact open_period tripsAtOnce 0 1000000000 bothStarted whileOpen firstFails hOrder (by decide)
      hEpoch ⟨.closed, hOpens⟩ hNoReset (by decide)

end Session

end CallGuard
