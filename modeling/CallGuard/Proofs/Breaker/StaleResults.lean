import CallGuard.Proofs.Breaker.Generations

/-!
# Stale results

The end of a call whose generation is over changes nothing but that the call is no longer in
flight. So whoever decides how such calls end decides nothing else: with the steps and the
instants as they are, no answer and no announcement of the whole session depends on it.
-/

namespace CallGuard.Session

/-- A new generation has begun since a call in flight was admitted, at the latest by the timeout
that takes effect when the call ends at `now`. -/
def Outdated (s : BreakerSettings) (now : Instant) (k : Nat) (w : Session) : Prop :=
  ∃ c, w.call? k = some c ∧ c.epoch < (w.refreshed s now).epoch

/-- Two lists of steps that differ in nothing but how outdated calls end. Which calls are
outdated is seen along the first list. -/
inductive Restated (s : BreakerSettings) : Session → List Step → List Step → Prop where
  | nil {w : Session} : Restated s w [] []
  | same {w : Session} {x : Step} {rest rest' : List Step} :
      Restated s (w.perform s x).1 rest rest' → Restated s w (x :: rest) (x :: rest')
  | outdated {w : Session} {now : Instant} {k : Nat} {outcome outcome' : Option Outcome}
      {rest rest' : List Step} : w.Outdated s now k →
      Restated s (w.perform s ⟨now, .settle k outcome⟩).1 rest rest' →
      Restated s w (⟨now, .settle k outcome⟩ :: rest) (⟨now, .settle k outcome'⟩ :: rest')

structure Alike (w w' : Session) : Prop where
  machine : w'.machine = w.machine
  epoch : w'.epoch = w.epoch
  calls : w'.calls = w.calls

namespace Alike

variable {s : BreakerSettings} {now : Instant} {w w' : Session}

theorem eq_with_log (h : Alike w w') : w' = { w with log := w'.log } := by
  obtain ⟨hMachine, hEpoch, hCalls⟩ := h
  cases w'
  simp_all

theorem start (h : Alike w w') :
    Alike (w.start s now).1 (w'.start s now).1 ∧ (w'.start s now).2 = (w.start s now).2 := by
  rw [h.eq_with_log]
  unfold Session.start
  simp only
  rcases w.machine.enter s now with ⟨reason | permit, m, signals⟩
  · exact ⟨⟨rfl, rfl, rfl⟩, rfl⟩
  · exact ⟨⟨rfl, rfl, rfl⟩, rfl⟩

theorem settle (h : Alike w w') (k : Nat) (outcome : Option Outcome) :
    Alike (w.settle s now k outcome).1 (w'.settle s now k outcome).1 ∧
      (w'.settle s now k outcome).2 = (w.settle s now k outcome).2 := by
  rw [h.eq_with_log]
  have hCall : call? { w with log := w'.log } k = w.call? k := rfl
  unfold Session.settle
  rw [hCall]
  cases w.call? k with
  | none => exact ⟨⟨rfl, rfl, rfl⟩, rfl⟩
  | some c => exact ⟨⟨rfl, rfl, rfl⟩, rfl⟩

/-- No step reads the log. -/
theorem perform (h : Alike w w') (x : Step) :
    Alike (w.perform s x).1 (w'.perform s x).1 ∧ (w'.perform s x).2 = (w.perform s x).2 := by
  obtain ⟨now, action⟩ := x
  cases action with
  | start => exact h.start
  | settle k outcome => exact h.settle k outcome
  | readState | readCounts | reset =>
    rw [h.eq_with_log]
    exact ⟨⟨rfl, rfl, rfl⟩, rfl⟩

end Alike

section Settling

variable {s : BreakerSettings} {now : Instant} {w : Session} {k : Nat} {c : Call}

theorem settle_of_ne (hCall : w.call? k = some c)
    (hStale : c.permit.generation ≠ (w.refreshed s now).machine.generation)
    (outcome : Option Outcome) :
    w.settle s now k outcome =
      ((w.refreshed s now).ended now k c outcome, ⟨.silence, w.elapsed s now⟩) := by
  have hMachine : w.machine.settle s now c.permit outcome = w.machine.refresh s now :=
    if_neg hStale
  unfold settle
  rw [hCall]
  simp only [hMachine]
  rfl

theorem Outdated.settle_alike (hSound : Sound w) (hOutdated : w.Outdated s now k)
    (outcome outcome' : Option Outcome)
    (hEpoch : (w.settle s now k outcome).1.epoch < 2 ^ 64) :
    Alike (w.settle s now k outcome).1 (w.settle s now k outcome').1 ∧
      (w.settle s now k outcome').2 = (w.settle s now k outcome).2 := by
  obtain ⟨c, hCall, hEarlier⟩ := hOutdated
  have hRefreshed : (w.refreshed s now).epoch < 2 ^ 64 := Nat.lt_of_le_of_lt
    ((performs_settle s now w k outcome).refreshed_epoch_le rfl hCall) hEpoch
  have hStale : c.permit.generation ≠ (w.refreshed s now).machine.generation := by
    intro hSame
    rw [hSound.refreshed.current_iff hRefreshed hCall] at hSame
    omega
  rw [settle_of_ne hCall hStale outcome, settle_of_ne hCall hStale outcome']
  exact ⟨⟨rfl, rfl, rfl⟩, rfl⟩

end Settling

section Runs

variable {s : BreakerSettings}

theorem Restated.after_alike {w w' : Session} {steps steps' : List Step} (hSound : Sound w)
    (hAlike : Alike w w') (hRestated : Restated s w steps steps')
    (hEpoch : (w.after s steps).epoch < 2 ^ 64) :
    Alike (w.after s steps) (w'.after s steps') ∧ reports s w' steps' = reports s w steps := by
  -- Both lists are gone through at once; what is carried along is that the sessions are alike.
  induction hRestated generalizing w' with
  | nil => exact ⟨hAlike, rfl⟩
  | @same w x rest rest' _ ih =>
    obtain ⟨hNext, hReport⟩ := hAlike.perform x
    obtain ⟨hAfter, hReports⟩ := ih (hSound.performs (performs_perform s x w)) hNext hEpoch
    exact ⟨hAfter, by rw [reports, reports, hReport, hReports]⟩
  | @outdated w now k outcome outcome' rest rest' hOutdated _ ih =>
    have hSettled : (w.settle s now k outcome).1.epoch < 2 ^ 64 :=
      Nat.lt_of_le_of_lt (epoch_le_after _ rest) hEpoch
    obtain ⟨hFirst, hSilent⟩ := hOutdated.settle_alike hSound outcome outcome' hSettled
    obtain ⟨hSecond, hSame⟩ := hAlike.perform (s := s) ⟨now, .settle k outcome'⟩
    have hNext : Alike (w.perform s ⟨now, .settle k outcome⟩).1
        (w'.perform s ⟨now, .settle k outcome'⟩).1 :=
      ⟨hSecond.machine.trans hFirst.machine, hSecond.epoch.trans hFirst.epoch,
        hSecond.calls.trans hFirst.calls⟩
    have hReport : (w'.perform s ⟨now, .settle k outcome'⟩).2 =
        (w.perform s ⟨now, .settle k outcome⟩).2 := hSame.trans hSilent
    have hSettledSound := hSound.performs (performs_settle s now w k outcome)
    obtain ⟨hAfter, hReports⟩ := ih hSettledSound hNext hEpoch
    exact ⟨hAfter, by rw [reports, reports, hReport, hReports]⟩

end Runs

/-- How outdated calls end shows in nothing that the users of a machine see, and it leaves no
trace in the machine. -/
theorem stale_results_silent (s : BreakerSettings) (created : Instant) (steps steps' : List Step)
    (hEpoch : (run s created steps).epoch < 2 ^ 64)
    (hRestated : Restated s (create s created) steps steps') :
    reports s (create s created) steps' = reports s (create s created) steps ∧
      (run s created steps').machine = (run s created steps).machine := by
  have hAlike : Alike (create s created) (create s created) := ⟨rfl, rfl, rfl⟩
  obtain ⟨hAfter, hReports⟩ := hRestated.after_alike (.create created) hAlike hEpoch
  exact ⟨hReports, hAfter.machine⟩

def everySecond : BreakerSettings :=
  { BreakerSettings.standard with closedWindowIntervalMs := 1000, consecutiveFailureThreshold := 1 }

/-- A call that outlasts its window by the very step that ends it, and what is seen then. -/
def outlasting (outcome : Option Outcome) : List Step :=
  [⟨0, .start⟩, ⟨1000000000, .settle 0 outcome⟩, ⟨1000000000, .readState⟩,
    ⟨1000000000, .readCounts⟩, ⟨1000000000, .start⟩]

theorem stale_results_silent_outlasting :
    (run everySecond 0 (outlasting (some .success))).epoch < 2 ^ 64 ∧
      Restated everySecond (create everySecond 0) (outlasting (some .success))
        (outlasting (some .failure)) ∧
      reports everySecond (create everySecond 0) (outlasting (some .failure)) =
        reports everySecond (create everySecond 0) (outlasting (some .success)) := by
  have hEpoch : (run everySecond 0 (outlasting (some .success))).epoch < 2 ^ 64 := by decide
  have hOutdated : ((create everySecond 0).start everySecond 0).1.Outdated everySecond
      1000000000 0 := ⟨⟨⟨0⟩, 0, false⟩, by decide, by decide⟩
  have hRestated : Restated everySecond (create everySecond 0) (outlasting (some .success))
      (outlasting (some .failure)) :=
    .same (.outdated hOutdated (.same (.same (.same .nil))))
  exact ⟨hEpoch, hRestated, (stale_results_silent everySecond 0 _ _ hEpoch hRestated).1⟩

end CallGuard.Session
