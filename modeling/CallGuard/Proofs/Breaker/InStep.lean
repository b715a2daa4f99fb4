import CallGuard.Proofs.Breaker.Generations
import CallGuard.Proofs.Counting.History

/-!
# Sessions in step

Two sessions are in step at an instant if from then on nobody can tell them apart: their machines
agree but for the numbers of their generations and for what their windows have yet to drop, and the
same calls are in flight, each of the present generation in both sessions or in neither. Whatever
happens to both at once leaves them in step.
-/

namespace CallGuard

namespace Machine

/-- Nothing is asked of the generations: only who shares them matters. -/
structure InStep (now : Instant) (m m' : Machine) : Prop where
  state : m'.state = m.state
  expiry : m'.expiry = m.expiry
  probesInFlight : m'.probesInFlight = m.probesInFlight
  probeSuccesses : m'.probeSuccesses = m.probeSuccesses
  counter : m'.counter.expire now = m.counter.expire now

namespace InStep

variable {s : BreakerSettings} {now : Instant} {m m' : Machine}

theorem clear (h : InStep now m m') : m'.counter.clear = m.counter.clear := by
  rw [← Window.clear_expire now m'.counter, h.counter, Window.clear_expire]

theorem of_clear {t : Instant} {state : State} (hClear : m'.counter.clear = m.counter.clear) :
    InStep now (m.renew s t state) (m'.renew s t state) where
  state := rfl
  expiry := rfl
  probesInFlight := rfl
  probeSuccesses := rfl
  counter := congrArg (Window.expire now) hClear

theorem later {later : Instant} (h : InStep now m m') (hLater : now ≤ later) :
    InStep later m m' where
  state := h.state
  expiry := h.expiry
  probesInFlight := h.probesInFlight
  probeSuccesses := h.probeSuccesses
  counter := by
    rw [← Window.expire_expire hLater m'.counter, h.counter, Window.expire_expire hLater]

theorem isExpired (h : InStep now m m') (t : Instant) : m'.isExpired t = m.isExpired t :=
  congrArg (Option.any (· ≤ t)) h.expiry

theorem rejection? (h : InStep now m m') : m'.rejection? s = m.rejection? s := by
  simp only [Machine.rejection?, h.state, h.probesInFlight, h.probeSuccesses]

theorem recorded (h : InStep now m m') (e : Event) :
    m'.counter.record now e = m.counter.record now e :=
  Window.record_congr h.counter e

theorem count (h : InStep now m m') : InStep now (m.count now) (m'.count now) where
  state := h.state
  expiry := h.expiry
  probesInFlight := by simp only [Machine.count, h.state, h.probesInFlight]
  probeSuccesses := h.probeSuccesses
  counter := congrArg (Window.expire now) (h.recorded .request)

theorem release (h : InStep now m m') : InStep now m.release m'.release := by
  unfold Machine.release
  rw [h.state]
  split
  · exact ⟨rfl, h.expiry, congrArg (· - 1) h.probesInFlight, h.probeSuccesses, h.counter⟩
  · exact h

theorem streakAfterFailure (h : InStep now m m') :
    m'.streakAfterFailure now = m.streakAfterFailure now := by
  simp only [Machine.streakAfterFailure, h.recorded]

theorem expire (h : InStep now m m') :
    InStep now { m with counter := m.counter.expire now }
      { m' with counter := m'.counter.expire now } where
  state := h.state
  expiry := h.expiry
  probesInFlight := h.probesInFlight
  probeSuccesses := h.probeSuccesses
  counter := congrArg (Window.expire now) h.counter

/-- What one machine does with an outcome the other one does too. -/
theorem books {o : Outcome} {n : Machine} {signals : List Signal} (h : InStep now m m')
    (hBooks : Books s now m o n signals) :
    ∃ n', Books s now m' o n' signals ∧ InStep now n n' := by
  have hStreak := h.streakAfterFailure
  have hSuccesses := h.probeSuccesses
  cases hBooks with
  | unheard hOpened => exact ⟨m', .unheard (h.state.trans hOpened), h⟩
  | succeeds hClosed hEvent =>
    refine ⟨_, .succeeds (h.state.trans hClosed) hEvent, ?_⟩
    exact { h with counter := congrArg (Window.expire now) (h.recorded .success) }
  | fails hClosed hEvent hShort =>
    refine ⟨_, .fails (h.state.trans hClosed) hEvent (hStreak ▸ hShort), ?_⟩
    exact { h with
      counter := congrArg (Window.expire now ∘ Window.expire now) (h.recorded .failure) }
  | trips hClosed hEvent hLong =>
    exact ⟨_, .trips (h.state.trans hClosed) hEvent (hStreak ▸ hLong), .of_clear h.clear⟩
  | probeSucceeds hHalf hEvent hFew =>
    refine ⟨_, .probeSucceeds (h.state.trans hHalf) hEvent (hSuccesses ▸ hFew), ?_⟩
    exact { h with
      probeSuccesses := congrArg (· + 1) hSuccesses
      counter := congrArg (Window.expire now) (h.recorded .success) }
  | recovers hHalf hEvent hEnough =>
    exact ⟨_, .recovers (h.state.trans hHalf) hEvent (hSuccesses ▸ hEnough), .of_clear h.clear⟩
  | probeFails hHalf hEvent =>
    exact ⟨_, .probeFails (h.state.trans hHalf) hEvent, .of_clear h.clear⟩

end InStep

end Machine

namespace Session

variable {s : BreakerSettings} {now : Instant} {w w' : Session} {exact : Prop}

section Calls

theorem call?_refused (w : Session) (k : Nat) : w.refused.call? k = w.call? k := by
  unfold call? refused
  rw [List.getElem?_append]
  split
  · rfl
  · next hBeyond =>
    rw [List.getElem?_eq_none (Nat.not_lt.mp hBeyond)]
    cases k - w.calls.length <;> rfl

theorem call?_admitted (now : Instant) (w : Session) (k : Nat) :
    (w.admitted now).call? k =
      if k = w.calls.length then
        some ⟨⟨w.machine.generation⟩, w.epoch, w.machine.state == .halfOpen⟩
      else w.call? k := by
  unfold call? admitted
  by_cases hNew : k = w.calls.length
  · rw [if_pos hNew, hNew, List.getElem?_concat_length]
    rfl
  · rw [if_neg hNew, List.getElem?_append]
    split
    · rfl
    · next hBeyond =>
      rw [List.getElem?_eq_none (Nat.not_lt.mp hBeyond), List.getElem?_eq_none]
      simp only [List.length_singleton]
      omega

theorem call?_ended (now : Instant) (w : Session) (k : Nat) (c : Call) (outcome : Option Outcome)
    (j : Nat) : (w.ended now k c outcome).call? j = if j = k then none else w.call? j := by
  unfold call? ended
  rw [List.getElem?_set]
  by_cases hSame : j = k
  · rw [if_pos hSame, if_pos hSame.symm]
    split <;> rfl
  · rw [if_neg hSame, if_neg (Ne.symm hSame)]

end Calls

/-- What a renewal needs to put two sessions in step. -/
structure Kindred (w w' : Session) : Prop where
  window : w'.machine.counter.clear = w.machine.counter.clear
  started : w'.calls.length = w.calls.length
  inFlight : ∀ k, (w'.call? k).isSome = (w.call? k).isSome

theorem Kindred.of_renewed {t : Instant} {state : State} (h : Kindred (w.renewed s t state) w') :
    Kindred w w' where
  window := by
    rw [h.window, renewed_machine, Machine.renew_counter, Window.clear_clear]
  started := h.started
  inFlight := h.inFlight

/-- If `exact` holds, the sessions also agree in their numbers. -/
structure InStep (exact : Prop) (now : Instant) (w w' : Session) : Prop where
  machine : w.machine.InStep now w'.machine
  started : w'.calls.length = w.calls.length
  inFlight : ∀ k, (w'.call? k).isSome = (w.call? k).isSome
  present : ∀ k c c', w.call? k = some c → w'.call? k = some c' →
    (c.epoch = w.epoch ↔ c'.epoch = w'.epoch)
  numbers : exact → w'.epoch = w.epoch ∧ w'.calls = w.calls

namespace InStep

theorem refl (w : Session) : InStep exact now w w where
  machine := ⟨rfl, rfl, rfl, rfl, rfl⟩
  started := rfl
  inFlight _ := rfl
  present k c c' hCall hCall' := by
    cases hCall.symm.trans hCall'
    rfl
  numbers _ := ⟨rfl, rfl⟩

theorem later {later : Instant} (h : InStep exact now w w') (hLater : now ≤ later) :
    InStep exact later w w' :=
  { h with machine := h.machine.later hLater }

theorem kindred (h : InStep exact now w w') : Kindred w w' where
  window := h.machine.clear
  started := h.started
  inFlight := h.inFlight

/-- The sessions begin a generation of which no call is in flight yet. -/
theorem renewed (hSound : Sound w) (hSound' : Sound w') (h : Kindred w w')
    (hNumbers : exact → w'.epoch = w.epoch ∧ w'.calls = w.calls) (t : Instant) (state : State) :
    InStep exact now (w.renewed s t state) (w'.renewed s t state) where
  machine := .of_clear h.window
  started := h.started
  inFlight := h.inFlight
  present k c c' hCall hCall' := by
    have hLe := hSound.call_le c (mem_of_call? hCall)
    have hLe' := hSound'.call_le c' (mem_of_call? hCall')
    rw [renewed_epoch, renewed_epoch]
    omega
  numbers hExact := by
    obtain ⟨hEpoch, hCalls⟩ := hNumbers hExact
    exact ⟨congrArg (· + 1) hEpoch, hCalls⟩

/-- Both machines change, and so many generations begin in both. -/
theorem moved {m m' : Machine} (hSound : Sound w) (hSound' : Sound w')
    (h : InStep exact now w w') (hMachine : m.InStep now m') (n : Nat) :
    InStep exact now { w with machine := m, epoch := w.epoch + n }
      { w' with machine := m', epoch := w'.epoch + n } where
  machine := hMachine
  started := h.started
  inFlight := h.inFlight
  present k c c' hCall hCall' := by
    have hLe := hSound.call_le c (mem_of_call? hCall)
    have hLe' := hSound'.call_le c' (mem_of_call? hCall')
    have hPresent := h.present k c c' hCall hCall'
    -- No call is of a generation that has just begun.
    change c.epoch = w.epoch + n ↔ c'.epoch = w'.epoch + n
    omega
  numbers hExact := by
    obtain ⟨hEpoch, hCalls⟩ := h.numbers hExact
    exact ⟨congrArg (· + n) hEpoch, hCalls⟩

theorem refused (h : InStep exact now w w') : InStep exact now w.refused w'.refused where
  machine := h.machine
  started := by
    simp only [Session.refused, List.length_append, h.started]
  inFlight k := by
    rw [call?_refused, call?_refused]
    exact h.inFlight k
  present k := by
    rw [call?_refused, call?_refused]
    exact h.present k
  numbers hExact := by
    obtain ⟨hEpoch, hCalls⟩ := h.numbers hExact
    exact ⟨hEpoch, congrArg (· ++ [none]) hCalls⟩

theorem admitted (hSound : Sound w) (hSound' : Sound w') (h : InStep exact now w w') :
    InStep exact now (w.admitted now) (w'.admitted now) where
  machine := h.machine.count
  started := by
    simp only [Session.admitted, List.length_append, h.started, List.length_singleton]
  inFlight k := by
    rw [call?_admitted, call?_admitted, h.started]
    split
    · rfl
    · exact h.inFlight k
  present k c c' := by
    rw [call?_admitted, call?_admitted, h.started]
    split
    · rintro ⟨⟩ ⟨⟩
      exact ⟨fun _ => rfl, fun _ => rfl⟩
    · exact h.present k c c'
  numbers hExact := by
    obtain ⟨hEpoch, hCalls⟩ := h.numbers hExact
    have hGeneration : w'.machine.generation = w.machine.generation := by
      rw [hSound.generation, hSound'.generation, hEpoch]
    refine ⟨hEpoch, ?_⟩
    simp only [Session.admitted, hCalls, hEpoch, hGeneration, h.machine.state]

theorem ended {c c' : Call} (h : InStep exact now w w') (k : Nat) (outcome : Option Outcome) :
    InStep exact now (w.ended now k c outcome) (w'.ended now k c' outcome) where
  machine := h.machine
  started := by
    simp only [Session.ended, List.length_set, h.started]
  inFlight j := by
    rw [call?_ended, call?_ended]
    split
    · rfl
    · exact h.inFlight j
  present j d d' := by
    rw [call?_ended, call?_ended]
    split
    · rintro ⟨⟩
    · exact h.present j d d'
  numbers hExact := by
    obtain ⟨hEpoch, hCalls⟩ := h.numbers hExact
    exact ⟨hEpoch, congrArg (·.set k none) hCalls⟩

theorem settled {k : Nat} {c c' : Call} {m m' : Machine} (hSound : Sound w) (hSound' : Sound w')
    (h : InStep exact now w w') (hCall : w.call? k = some c) (hCall' : w'.call? k = some c')
    (outcome : Option Outcome) (hMachine : m.InStep now m') (n : Nat) :
    InStep exact now { w.ended now k c outcome with machine := m, epoch := w.epoch + n }
      { w'.ended now k c' outcome with machine := m', epoch := w'.epoch + n } :=
  (h.ended k outcome).moved (hSound.ended hCall outcome) (hSound'.ended hCall' outcome) hMachine n

end InStep

/-- Fewer than 2^64 generations have begun since the call was admitted that an action ends. -/
def Recent (a : Action) (w : Session) : Prop :=
  ∀ k outcome c, a = .settle k outcome → w.call? k = some c → w.epoch < c.epoch + 2 ^ 64

def Agree (a : Action) (w w' : Session) : Prop :=
  ∀ k outcome c c', a = .settle k outcome → w.call? k = some c → w'.call? k = some c' →
    (c.permit.generation = w.machine.generation ↔ c'.permit.generation = w'.machine.generation)

namespace InStep

theorem agree {a : Action} (hSound : Sound w) (hSound' : Sound w') (h : InStep exact now w w')
    (hRecent : exact ∨ Recent a w ∧ Recent a w') : Agree a w w' := by
  intro k outcome c c' hAction hCall hCall'
  rcases hRecent with hExact | ⟨hRecent, hRecent'⟩
  · obtain ⟨hEpoch, hCalls⟩ := h.numbers hExact
    have hSame : c' = c := by
      rw [call?, hCalls] at hCall'
      exact Option.some_inj.mp (hCall'.symm.trans hCall)
    rw [hSame, hSound.generation, hSound'.generation, hEpoch]
  · rw [hSound.permit_eq_iff_of_lt (hRecent k outcome c hAction hCall) (mem_of_call? hCall),
      hSound'.permit_eq_iff_of_lt (hRecent' k outcome c' hAction hCall') (mem_of_call? hCall')]
    exact h.present k c c' hCall hCall'

/-- An action that is taken in both sessions leaves them in step, and its answer and what it
makes the machines announce are the same. -/
theorem acts {a : Action} {r r' : Session} {answer answer' : Answer}
    {signals signals' : List Signal} (hSound : Sound w) (hSound' : Sound w')
    (h : InStep exact now w w') (hAgree : Agree a w w')
    (hActs : Acts s now w a r answer signals) (hActs' : Acts s now w' a r' answer' signals') :
    InStep exact now r r' ∧ answer' = answer ∧ signals' = signals := by
  have hRejection := h.machine.rejection? (s := s)
  cases hActs with
  | refused hRefused =>
    cases hActs' with
    | refused hRefused' =>
      cases hRefused.symm.trans (hRejection.symm.trans hRefused')
      exact ⟨h.refused, rfl, rfl⟩
    | admitted hAdmitted' => cases hRefused.symm.trans (hRejection.symm.trans hAdmitted')
  | admitted hAdmitted =>
    cases hActs' with
    | refused hRefused' => cases hAdmitted.symm.trans (hRejection.symm.trans hRefused')
    | admitted => exact ⟨h.admitted hSound hSound', rfl, rfl⟩
  | stale hCall hStale =>
    cases hActs' with
    | stale => exact ⟨h.ended _ _, rfl, rfl⟩
    | dropped hCall' hPresent' | booked hCall' hPresent' =>
      exact absurd ((hAgree _ _ _ _ rfl hCall hCall').mpr hPresent') hStale
  | dropped hCall hPresent =>
    cases hActs' with
    | stale hCall' hStale' =>
      exact absurd ((hAgree _ _ _ _ rfl hCall hCall').mp hPresent) hStale'
    | dropped hCall' =>
      exact ⟨h.settled hSound hSound' hCall hCall' none h.machine.release 0, rfl, rfl⟩
  | booked hCall hPresent hBooks =>
    cases hActs' with
    | stale hCall' hStale' =>
      exact absurd ((hAgree _ _ _ _ rfl hCall hCall').mp hPresent) hStale'
    | booked hCall' _ hBooks' =>
      obtain ⟨m', hSame, hMachine⟩ := h.machine.release.books hBooks
      obtain ⟨rfl, rfl⟩ := hSame.unique hBooks'
      exact ⟨h.settled hSound hSound' hCall hCall' _ hMachine _, rfl, rfl⟩
  | stateRead =>
    cases hActs' with
    | stateRead => exact ⟨h, congrArg Answer.state h.machine.state, rfl⟩
  | countsRead =>
    cases hActs' with
    | countsRead =>
      refine ⟨h.moved hSound hSound' h.machine.expire 0, ?_, rfl⟩
      exact congrArg Answer.counts (Window.countsAt_congr h.machine.counter)

theorem elapses {r r' : Session} {signals signals' : List Signal} (hSound : Sound w)
    (hSound' : Sound w') (h : InStep exact now w w') (hElapses : Elapses s now w r signals)
    (hElapses' : Elapses s now w' r' signals') : InStep exact now r r' ∧ signals' = signals := by
  have hExpired := h.machine.isExpired now
  have hState := h.machine.state
  cases hElapses with
  | still hStill =>
    cases hElapses' with
    | still => exact ⟨h, rfl⟩
    | window hExpired' hState' | probing hExpired' hState' => simp_all
  | window hTimeout hClosed =>
    cases hElapses' with
    | still hStill' => simp_all
    | window => exact ⟨.renewed hSound hSound' h.kindred h.numbers now .closed, rfl⟩
    | probing hTimeout' hOpened' => simp_all
  | probing hTimeout hOpened =>
    cases hElapses' with
    | still hStill' => simp_all
    | window hTimeout' hClosed' => simp_all
    | probing => exact ⟨.renewed hSound hSound' h.kindred h.numbers now .halfOpen, rfl⟩

end InStep

end Session

end CallGuard
