import CallGuard.Proofs.Breaker.ProbeBalance

/-!
# Probes of several episodes

The quota of probes holds for each half-open episode by itself. A failed probe ends an episode
while its other probes go on, so together with those of the next episode they can exceed the
quota: at most by one less than the quota for each episode that a failure has ended.
-/

namespace CallGuard.Session

variable {s : BreakerSettings} {now : Instant}

/-- The probes in flight outnumber those of the present episode at most by one less than the
quota for each of `n` earlier episodes. -/
def Overlapping (s : BreakerSettings) (n : Nat) (w : Session) : Prop :=
  w.inFlight Call.isProbe ≤ (s.quota - 1) * n + w.machine.probesInFlight

def reopening : Signal := .changed .halfOpen .opened

namespace Overlapping

variable {n : Nat} {w : Session}

theorem renewed {target : State} (hBalanced : Balanced s w) (h : Overlapping s n w)
    (hState : w.machine.state ≠ .halfOpen) : Overlapping s n (w.renewed s now target) := by
  have hIdle := (hBalanced.idle hState).1
  unfold Overlapping at h
  rw [hIdle] at h
  exact h

theorem elapses {r : Session} {signals : List Signal} (hBalanced : Balanced s w)
    (h : Overlapping s n w) (hElapses : Elapses s now w r signals) :
    Overlapping s (n + signals.count reopening) r := by
  cases hElapses with
  | still => exact h
  | window _ hState => exact h.renewed hBalanced (by simp [hState])
  | probing _ hState => exact h.renewed hBalanced (by simp [hState])

theorem admitted (h : Overlapping s n w) : Overlapping s n (w.admitted now) := by
  unfold Overlapping at h ⊢
  rw [inFlight_admitted]
  simp only [Session.admitted, Machine.count, beq_iff_eq]
  split <;> omega

theorem stale {k : Nat} {c : Call} {outcome : Option Outcome} (h : Overlapping s n w)
    (hCall : w.call? k = some c) : Overlapping s n (w.ended now k c outcome) := by
  have hEnded := inFlight_ended now hCall outcome Call.isProbe
  unfold Overlapping at h ⊢
  simp only [ended] at hEnded ⊢
  omega

/-- The end of a call of the present generation takes as many probes out of flight as it gives
slots back. -/
theorem released (now : Instant) {k : Nat} {c : Call} (outcome : Option Outcome)
    (hSound : Sound w) (hBalanced : Balanced s w) (h : Overlapping s n w)
    (hCall : w.call? k = some c) (hCurrent : c.epoch = w.epoch) :
    (w.ended now k c outcome).inFlight Call.isProbe ≤
      (s.quota - 1) * n + w.machine.release.probesInFlight := by
  have hEnded := inFlight_ended now hCall outcome Call.isProbe
  rw [hSound.isProbe c (mem_of_call? hCall) hCurrent] at hEnded
  unfold Overlapping at h
  by_cases hHalf : w.machine.state = .halfOpen
  · have hPos := hBalanced.inFlight_pos hHalf hCall hCurrent
    simp only [hHalf, beq_self_eq_true, if_true] at hEnded
    simp only [Machine.release, hHalf, if_true]
    omega
  · simp only [beq_iff_eq, hHalf, if_false] at hEnded
    simp only [Machine.release, hHalf, if_false]
    omega

theorem acts {a : Action} {r r' : Session} {answer : Answer} {signals : List Signal}
    (hSound : Sound r) (hEpoch : r.epoch < 2 ^ 64) (hBalanced : Balanced s r)
    (h : Overlapping s n r) (hActs : Acts s now r a r' answer signals) :
    Overlapping s (n + signals.count reopening) r' := by
  cases hActs with
  | refused =>
    unfold Overlapping at h ⊢
    rw [inFlight_refused]
    exact h
  | admitted => exact h.admitted
  | stale hCall => exact h.stale hCall
  | dropped hCall hCurrent =>
    rw [hSound.current_iff hEpoch hCall] at hCurrent
    exact h.released now none hSound hBalanced hCall hCurrent
  | @booked k c o m signals hCall hCurrent hBooks =>
    rw [hSound.current_iff hEpoch hCall] at hCurrent
    have hReleased := h.released now (some o) hSound hBalanced hCall hCurrent
    have hWithin := hBalanced.le_quota.1
    cases hBooks with
    | unheard | succeeds | fails | probeSucceeds => exact hReleased
    | trips hState =>
      rw [Machine.release_state] at hState
      have hIdle : r.machine.release.probesInFlight = 0 := by
        simp [Machine.release, hState, hBalanced.idle]
      rw [hIdle] at hReleased
      exact hReleased
    | recovers hState _ hQuota =>
      rw [Machine.release_state] at hState
      rw [Machine.release_probeSuccesses] at hQuota
      -- The quota is used up, so no probe is in flight beside the one that recovers.
      have hLast : r.machine.release.probesInFlight = 0 := by
        simp only [Machine.release, hState, if_true]
        omega
      rw [hLast] at hReleased
      exact hReleased
    | probeFails hState =>
      rw [Machine.release_state] at hState
      -- The other probes of the episode are left behind.
      have hOthers : r.machine.release.probesInFlight ≤ s.quota - 1 := by
        simp only [Machine.release, hState, if_true]
        omega
      change (r.ended now k c (some o)).inFlight Call.isProbe ≤ (s.quota - 1) * (n + 1) + 0
      rw [Nat.mul_add_one]
      omega
  | stateRead => exact h
  | countsRead => exact h

theorem performs {x : Step} {w' : Session} {report : Report} (hSound : Sound w)
    (hEpoch : w'.epoch < 2 ^ 64) (hBalanced : Balanced s w) (h : Overlapping s n w)
    (hNoReset : x.action ≠ .reset) (hPerforms : Performs s x w w' report) :
    Overlapping s (n + report.signals.count reopening) w' := by
  cases hPerforms with
  | idle => exact h
  | reset hReset => exact absurd hReset hNoReset
  | acts hActs =>
    have hRefreshed := h.elapses hBalanced (elapses_refreshed s x.time w)
    have hEpoch' := Nat.lt_of_le_of_lt hActs.epoch_le hEpoch
    rw [List.count_append, ← Nat.add_assoc]
    exact hRefreshed.acts hSound.refreshed hEpoch' (hBalanced.refreshed x.time hSound) hActs

theorem run (created : Instant) (steps : List Step)
    (hEpoch : (run s created steps).epoch < 2 ^ 64)
    (hNoReset : ∀ x ∈ steps, x.action ≠ .reset) :
    Overlapping s ((announced s created steps).count reopening) (run s created steps) := by
  induction steps using List.reverseRecOn with
  | nil => exact Nat.zero_le _
  | append_singleton steps x ih =>
    rw [run_append_singleton] at hEpoch ⊢
    rw [announced_append_singleton, List.count_append]
    have hPerforms := performs_perform s x (Session.run s created steps)
    have hBefore := Nat.lt_of_le_of_lt hPerforms.epoch_le hEpoch
    have hSteps := ih hBefore fun y hMem => hNoReset y (List.mem_append_left _ hMem)
    exact hSteps.performs (.run created steps) hEpoch (balanced_invariant.run created steps hBefore)
      (hNoReset x (by simp)) hPerforms

end Overlapping

def probesOf (epoch : Nat) (w : Session) : Nat :=
  w.inFlight fun c => c.isProbe && c.epoch == epoch

theorem probesOf_ended_le (now : Instant) {w : Session} {k : Nat} {c : Call}
    (hCall : w.call? k = some c) (outcome : Option Outcome) (e : Nat) :
    (w.ended now k c outcome).probesOf e ≤ w.probesOf e := by
  have hEnded := inFlight_ended now hCall outcome fun c => c.isProbe && c.epoch == e
  unfold probesOf
  omega

theorem Balanced.probesOf_admitted_le {w : Session} (h : Balanced s w)
    (hAdmits : w.machine.rejection? s = none) {e : Nat} (hEpisode : w.probesOf e ≤ s.quota) :
    (w.admitted now).probesOf e ≤ s.quota := by
  rcases (Machine.rejection?_eq_none_iff s w.machine).mp hAdmits with hClosed | ⟨hHalf, hRoom⟩
  · simpa [probesOf, hClosed] using hEpisode
  · by_cases hEpoch : w.epoch = e
    · have hProbes : w.probesOf e ≤ w.inFlight (·.epoch == w.epoch) := by
        refine List.countP_mono_left fun slot _ hSlot => ?_
        cases slot with
        | none => exact hSlot
        | some c => simp_all
      rw [← h.inFlight hHalf] at hProbes
      simp only [probesOf, inFlight_admitted] at hProbes ⊢
      split <;> omega
    · simpa [probesOf, hEpoch] using hEpisode

theorem probesOf_acts_le {a : Action} {r r' : Session} {answer : Answer} {signals : List Signal}
    (hBalanced : Balanced s r) (hActs : Acts s now r a r' answer signals) {e : Nat}
    (h : r.probesOf e ≤ s.quota) : r'.probesOf e ≤ s.quota := by
  cases hActs with
  | refused =>
    unfold probesOf
    rw [inFlight_refused]
    exact h
  | admitted hAdmits => exact hBalanced.probesOf_admitted_le hAdmits h
  | stale hCall => exact Nat.le_trans (probesOf_ended_le now hCall _ e) h
  | dropped hCall => exact Nat.le_trans (probesOf_ended_le now hCall none e) h
  | @booked _ _ o _ _ hCall => exact Nat.le_trans (probesOf_ended_le now hCall (some o) e) h
  | stateRead => exact h
  | countsRead => exact h

theorem episodes_invariant :
    Invariant s fun w => Balanced s w ∧ ∀ e, w.probesOf e ≤ s.quota where
  create created := ⟨balanced_invariant.create created, fun _ => Nat.zero_le _⟩
  preserved now :=
    { renewed := fun state hSound h => ⟨.renewed hSound now state, h.2⟩
      acts := fun hSound hEpoch h hActs =>
        ⟨h.1.acts hSound hEpoch hActs, fun e => probesOf_acts_le h.1 hActs (h.2 e)⟩ }

/-- No episode has more probes in flight than the quota, and all episodes together exceed it at
most by one less than the quota for each episode that a failed probe has ended. -/
theorem probes_inFlight_le (s : BreakerSettings) (created : Instant) (steps : List Step)
    (hEpoch : (run s created steps).epoch < 2 ^ 64)
    (hNoReset : ∀ x ∈ steps, x.action ≠ .reset) :
    (∀ e, (run s created steps).probesOf e ≤ s.quota) ∧
      (run s created steps).inFlight Call.isProbe ≤
        (if (run s created steps).machine.state = .halfOpen then s.quota else 0) +
          (s.quota - 1) * (announced s created steps).count (.changed .halfOpen .opened) := by
  have hBalanced := balanced_invariant.run created steps hEpoch
  have hOverlapping := Overlapping.run created steps hEpoch hNoReset
  refine ⟨(episodes_invariant.run created steps hEpoch).2, ?_⟩
  have hPresent : (run s created steps).machine.probesInFlight ≤
      if (run s created steps).machine.state = .halfOpen then s.quota else 0 := by
    split
    · exact Nat.le_trans (Nat.le_add_right _ _) hBalanced.le_quota.1
    · next hState => exact Nat.le_of_eq (hBalanced.idle hState).1
  unfold Overlapping reopening at hOverlapping
  omega

theorem probes_inFlight_le_reprobing :
    (run twoProbes 0 reprobing).epoch < 2 ^ 64 ∧ (∀ x ∈ reprobing, x.action ≠ .reset) ∧
      (∀ e, (run twoProbes 0 reprobing).probesOf e ≤ 2) ∧
      (run twoProbes 0 reprobing).inFlight Call.isProbe ≤ 3 := by
  have hEpoch : (run twoProbes 0 reprobing).epoch < 2 ^ 64 := by decide
  have hNoReset : ∀ x ∈ reprobing, x.action ≠ .reset := by decide
  exact ⟨hEpoch, hNoReset, probes_inFlight_le twoProbes 0 reprobing hEpoch hNoReset⟩

/-- Over several episodes the quota does not bound the probes in flight. -/
theorem not_probes_inFlight_le_quota :
    ¬ ∀ (s : BreakerSettings) (created : Instant) (steps : List Step), InOrder created steps →
      (∀ x ∈ steps, x.action ≠ .reset) →
      (run s created steps).inFlight Call.isProbe ≤ s.quota := by
  intro hWithinQuota
  have hBound := hWithinQuota twoProbes 0 reprobing (by decide) (by decide)
  have hThree : (run twoProbes 0 reprobing).inFlight Call.isProbe = 3 := by decide
  rw [hThree] at hBound
  exact absurd hBound (by decide)

end CallGuard.Session
