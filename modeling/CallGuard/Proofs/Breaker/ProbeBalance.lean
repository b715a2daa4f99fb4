import CallGuard.Proofs.Breaker.Generations

/-!
# The numbers of a half-open machine

A half-open machine keeps two numbers: the probes in flight and those that have succeeded. In
every session they are what they are called, and together they stay within the quota. So no sum
of them leaves its word, no slot is given back that was not taken, and a call is turned away for
want of a slot exactly if all slots are taken or used up.
-/

namespace CallGuard.Session

/-- How many permits in flight carry the number of the present generation. -/
def currentPermits (w : Session) : Nat :=
  w.inFlight fun c => c.permit.generation == w.machine.generation

def successes (w : Session) : Nat := w.marks w.epoch fun m => m.event? == some .success

variable {s : BreakerSettings}

@[simp] theorem successes_ended (now : Instant) (w : Session) (k : Nat) (c : Call)
    (outcome : Option Outcome) :
    (w.ended now k c outcome).successes = w.successes +
      if c.epoch = w.epoch ∧ outcome.map Outcome.event = some .success then 1 else 0 := by
  simp only [successes, Mark.event?]
  rw [marks_ended]
  simp only [beq_iff_eq]
  rfl

theorem Sound.currentPermits_eq {w : Session} (h : Sound w) (hEpoch : w.epoch < 2 ^ 64) :
    w.currentPermits = w.inFlight (·.epoch == w.epoch) := by
  apply List.countP_congr
  intro slot hMem
  cases slot with
  | none => rfl
  | some c => simpa using h.permit_eq_iff hEpoch hMem

/-- The two numbers of a machine tell the truth about the calls of its generation. -/
structure Balanced (s : BreakerSettings) (w : Session) : Prop where
  inFlight : w.machine.state = .halfOpen →
    w.machine.probesInFlight = w.inFlight (·.epoch == w.epoch)
  successes : w.machine.state = .halfOpen → w.machine.probeSuccesses = w.successes
  unfinished : w.machine.state = .halfOpen → w.machine.probeSuccesses < s.quota
  within : w.machine.state = .halfOpen →
    w.machine.probesInFlight + w.machine.probeSuccesses ≤ s.quota
  idle : w.machine.state ≠ .halfOpen →
    w.machine.probesInFlight = 0 ∧ w.machine.probeSuccesses = 0

namespace Balanced

variable {now : Instant} {w : Session}

theorem renewed (hSound : Sound w) (now : Instant) (state : State) :
    Balanced s (w.renewed s now state) where
  inFlight _ := (hSound.inFlight_later (Nat.lt_succ_self _)).symm
  successes _ := by
    have hNone := hSound.marks_later (Nat.lt_succ_self w.epoch) fun m => m.event? == some .success
    exact hNone.symm
  unfinished _ := s.quota_pos
  within _ := Nat.zero_le _
  idle _ := ⟨rfl, rfl⟩

theorem admitted (h : Balanced s w) (hAdmits : w.machine.rejection? s = none) :
    Balanced s (w.admitted now) := by
  rcases (Machine.rejection?_eq_none_iff s w.machine).mp hAdmits with hClosed | ⟨hHalf, hRoom⟩
  · have hState : (w.admitted now).machine.state ≠ .halfOpen := by
      change w.machine.state ≠ .halfOpen
      simp [hClosed]
    have hIdle := h.idle hState
    constructor
    · exact fun hHalf => absurd hHalf hState
    · exact fun hHalf => absurd hHalf hState
    · exact fun hHalf => absurd hHalf hState
    · exact fun hHalf => absurd hHalf hState
    · intro _
      simpa [Session.admitted, Machine.count, hClosed] using hIdle
  · have hInFlight := h.inFlight hHalf
    have hSuccesses := h.successes hHalf
    constructor
    · intro _
      simp only [inFlight_admitted]
      simp [Session.admitted, Machine.count, hHalf, hInFlight]
    · intro _
      simpa [Session.successes, Session.admitted, Machine.count, marks, Mark.event?]
        using hSuccesses
    · exact fun _ => h.unfinished hHalf
    · intro _
      simp only [Session.admitted, Machine.count, hHalf, if_true]
      omega
    · exact fun hNot => absurd hHalf hNot

theorem stale {k : Nat} {c : Call} {outcome : Option Outcome} (h : Balanced s w)
    (hCall : w.call? k = some c) (hStale : c.epoch ≠ w.epoch) :
    Balanced s (w.ended now k c outcome) where
  inFlight hHalf := by
    have hEnded := inFlight_ended now hCall outcome (·.epoch == w.epoch)
    simp only [beq_iff_eq, hStale, if_false, Nat.add_zero] at hEnded
    exact (h.inFlight hHalf).trans hEnded.symm
  successes hHalf := by
    rw [successes_ended, if_neg (fun hSame => hStale hSame.1)]
    exact h.successes hHalf
  unfinished := h.unfinished
  within := h.within
  idle := h.idle

theorem inFlight_pos {k : Nat} {c : Call} (h : Balanced s w) (hHalf : w.machine.state = .halfOpen)
    (hCall : w.call? k = some c) (hCurrent : c.epoch = w.epoch) :
    0 < w.machine.probesInFlight := by
  rw [h.inFlight hHalf]
  exact List.countP_pos_iff.mpr ⟨some c, mem_of_call? hCall, by simpa using hCurrent⟩

theorem inFlight_release (now : Instant) {k : Nat} {c : Call} (h : Balanced s w)
    (hHalf : w.machine.state = .halfOpen) (hCall : w.call? k = some c)
    (hCurrent : c.epoch = w.epoch) (outcome : Option Outcome) :
    w.machine.release.probesInFlight =
      (w.ended now k c outcome).inFlight (·.epoch == w.epoch) := by
  have hEnded := inFlight_ended now hCall outcome (·.epoch == w.epoch)
  have hInFlight := h.inFlight hHalf
  simp only [beq_iff_eq, hCurrent, if_true] at hEnded
  simp only [Machine.release, hHalf, if_true]
  omega

theorem released {k : Nat} {c : Call} {outcome : Option Outcome} {m : Machine}
    (h : Balanced s w) (hCall : w.call? k = some c) (hCurrent : c.epoch = w.epoch)
    (hState : m.state = w.machine.state)
    (hInFlight : m.probesInFlight = w.machine.release.probesInFlight)
    (hSuccesses : m.probeSuccesses = w.machine.probeSuccesses +
      if w.machine.state = .halfOpen ∧ outcome.map Outcome.event = some .success then 1 else 0)
    (hUnfinished : w.machine.state = .halfOpen → m.probeSuccesses < s.quota) :
    Balanced s { w.ended now k c outcome with machine := m } where
  inFlight hHalf := by
    rw [hState] at hHalf
    exact hInFlight.trans (h.inFlight_release now hHalf hCall hCurrent outcome)
  successes hHalf := by
    rw [hState] at hHalf
    have hBefore := h.successes hHalf
    change m.probeSuccesses = (w.ended now k c outcome).successes
    rw [successes_ended, hSuccesses, hBefore]
    simp only [hHalf, hCurrent, true_and]
  unfinished hHalf := hUnfinished (hState.symm.trans hHalf)
  within hHalf := by
    rw [hState] at hHalf
    have hPos := h.inFlight_pos hHalf hCall hCurrent
    have hWithin := h.within hHalf
    change m.probesInFlight + m.probeSuccesses ≤ s.quota
    rw [hInFlight, hSuccesses]
    simp only [Machine.release, hHalf, if_true]
    split <;> omega
  idle hNot := by
    rw [hState] at hNot
    have hIdle := h.idle hNot
    change m.probesInFlight = 0 ∧ m.probeSuccesses = 0
    rw [hInFlight, hSuccesses]
    simp [Machine.release, hNot, hIdle]

theorem acts {a : Action} {r r' : Session} {answer : Answer} {signals : List Signal}
    (hSound : Sound r) (hEpoch : r.epoch < 2 ^ 64) (h : Balanced s r)
    (hActs : Acts s now r a r' answer signals) : Balanced s r' := by
  cases hActs with
  | refused =>
    have hInFlight := inFlight_refused (·.epoch == r.epoch) r
    exact ⟨fun hHalf => (h.inFlight hHalf).trans hInFlight.symm, h.successes, h.unfinished,
      h.within, h.idle⟩
  | admitted hAdmits => exact h.admitted hAdmits
  | stale hCall hStale =>
    rw [Ne, hSound.current_iff hEpoch hCall] at hStale
    exact h.stale hCall hStale
  | dropped hCall hCurrent =>
    rw [hSound.current_iff hEpoch hCall] at hCurrent
    exact h.released hCall hCurrent (by simp) rfl (by simp)
      (fun hHalf => by simpa using h.unfinished hHalf)
  | booked hCall hCurrent hBooks =>
    rw [hSound.current_iff hEpoch hCall] at hCurrent
    cases hBooks with
    | unheard hState =>
      simp only [Machine.release_state] at hState
      exact h.released hCall hCurrent (by simp) rfl (by simp [hState]) (by simp [hState])
    | succeeds hState =>
      simp only [Machine.release_state] at hState
      exact h.released hCall hCurrent (by simp) rfl (by simp [hState]) (by simp [hState])
    | fails hState =>
      simp only [Machine.release_state] at hState
      exact h.released hCall hCurrent (by simp) rfl (by simp [hState]) (by simp [hState])
    | probeSucceeds hState hEvent hQuota =>
      simp only [Machine.release_state] at hState
      exact h.released hCall hCurrent (by simp) rfl (by simp [hState, hEvent]) (fun _ => hQuota)
    | trips | recovers | probeFails =>
      rw [Machine.renew_release]
      exact renewed (hSound.ended hCall _) now _
  | stateRead => exact h
  | countsRead => exact ⟨h.inFlight, h.successes, h.unfinished, h.within, h.idle⟩

end Balanced

theorem balanced_invariant : Invariant s (Balanced s) where
  create _ :=
    { inFlight := fun hHalf => by cases hHalf
      successes := fun hHalf => by cases hHalf
      unfinished := fun hHalf => by cases hHalf
      within := fun hHalf => by cases hHalf
      idle := fun _ => ⟨rfl, rfl⟩ }
  preserved now :=
    { renewed := fun state hSound _ => .renewed hSound now state
      acts := fun hSound hEpoch h hActs => h.acts hSound hEpoch hActs }

theorem quota_lt (s : BreakerSettings) : s.quota < 2 ^ 32 := by
  have hWord := s.maxHalfOpenRequests.toNat_lt
  simp only [BreakerSettings.quota]
  omega

theorem Balanced.refreshed (now : Instant) {w : Session} (h : Balanced s w) (hSound : Sound w) :
    Balanced s (w.refreshed s now) :=
  (balanced_invariant.preserved now).elapses (elapses_refreshed s now w) hSound h

theorem Balanced.le_quota {w : Session} (h : Balanced s w) :
    w.machine.probesInFlight + w.machine.probeSuccesses ≤ s.quota ∧
      w.machine.probeSuccesses < s.quota := by
  by_cases hHalf : w.machine.state = .halfOpen
  · exact ⟨h.within hHalf, h.unfinished hHalf⟩
  · have hIdle := h.idle hHalf
    have hPos := s.quota_pos
    omega

/-- A timeout that takes effect leaves slots free, so the slots are full only if they were. -/
theorem Balanced.full_iff {now : Instant} {w r : Session} {signals : List Signal}
    (h : Balanced s w) (hElapses : Elapses s now w r signals) :
    (r.machine.state = .halfOpen ∧
        s.quota ≤ r.machine.probesInFlight + r.machine.probeSuccesses) ↔
      w.machine.state = .halfOpen ∧
        w.machine.probesInFlight + w.machine.probeSuccesses = s.quota := by
  have hPos := s.quota_pos
  have hLe := h.le_quota.1
  cases hElapses with
  | still => exact and_congr_right fun _ => ⟨fun hFull => by omega, fun hFull => by omega⟩
  | window _ hState => simp [hState]
  | probing _ hState =>
    simp only [renewed_machine, Machine.renew_probesInFlight, Machine.renew_probeSuccesses, hState]
    constructor
    · rintro ⟨_, hFull⟩
      omega
    · rintro ⟨hHalf, _⟩
      cases hHalf

theorem refused_tooManyProbes_iff {w : Session} (now : Instant) (h : Balanced s w) :
    (w.start s now).2.answer = .refused .tooManyProbes ↔
      w.machine.state = .halfOpen ∧
        w.machine.probesInFlight + w.machine.probeSuccesses = s.quota := by
  rw [← h.full_iff (elapses_refreshed s now w), ← Machine.rejection?_eq_tooManyProbes_iff,
    start_answer]
  split <;> simp_all

structure ProbesAccounted (s : BreakerSettings) (w : Session) : Prop where
  inFlight : w.machine.state = .halfOpen → w.machine.probesInFlight = w.currentPermits
  successes : w.machine.state = .halfOpen → w.machine.probeSuccesses = w.successes
  unfinished : w.machine.state = .halfOpen → w.machine.probeSuccesses < s.quota
  within : w.machine.state = .halfOpen →
    w.machine.probesInFlight + w.machine.probeSuccesses ≤ s.quota
  idle : w.machine.state ≠ .halfOpen →
    w.machine.probesInFlight = 0 ∧ w.machine.probeSuccesses = 0
  sum_lt : ∀ now, (w.refreshed s now).machine.probesInFlight +
    (w.refreshed s now).machine.probeSuccesses < 2 ^ 32
  taken_lt : ∀ now, (w.refreshed s now).machine.rejection? s = none →
    (w.refreshed s now).machine.probesInFlight + 1 < 2 ^ 32
  succeeded_lt : ∀ now, (w.refreshed s now).machine.probeSuccesses + 1 < 2 ^ 32
  /-- The end of a current probe finds a slot to give back. -/
  slot_taken : ∀ now k c, (w.refreshed s now).epoch < 2 ^ 64 → w.call? k = some c →
    (w.refreshed s now).machine.state = .halfOpen →
    c.permit.generation = (w.refreshed s now).machine.generation →
    0 < (w.refreshed s now).machine.probesInFlight
  refused_iff : ∀ now, (w.start s now).2.answer = .refused .tooManyProbes ↔
    w.machine.state = .halfOpen ∧ w.currentPermits + w.successes = s.quota
  refused_inFlight : ∀ now, (w.start s now).2.answer = .refused .tooManyProbes →
    0 < w.currentPermits

/-- In every session a half-open machine counts its probes right, in words that suffice, and
refuses a probe exactly if those in flight and those that succeeded make up the quota. -/
theorem probes_accounted (s : BreakerSettings) (created : Instant) (steps : List Step)
    (hEpoch : (run s created steps).epoch < 2 ^ 64) : ProbesAccounted s (run s created steps) := by
  have hSound := Sound.run (s := s) created steps
  have hBalanced := balanced_invariant.run created steps hEpoch
  have hPermits := hSound.currentPermits_eq hEpoch
  have hQuota := quota_lt s
  generalize run s created steps = w at *
  have hRefused : ∀ now, (w.start s now).2.answer = .refused .tooManyProbes ↔
      w.machine.state = .halfOpen ∧ w.currentPermits + w.successes = s.quota := by
    intro now
    rw [refused_tooManyProbes_iff now hBalanced]
    refine and_congr_right fun hHalf => ?_
    rw [hPermits, ← hBalanced.inFlight hHalf, ← hBalanced.successes hHalf]
  constructor
  case inFlight => exact fun hHalf => (hBalanced.inFlight hHalf).trans hPermits.symm
  case successes => exact hBalanced.successes
  case unfinished => exact hBalanced.unfinished
  case within => exact hBalanced.within
  case idle => exact hBalanced.idle
  case sum_lt =>
    exact fun now => Nat.lt_of_le_of_lt (hBalanced.refreshed now hSound).le_quota.1 hQuota
  case taken_lt =>
    intro now hAdmits
    rcases (Machine.rejection?_eq_none_iff s _).mp hAdmits with hClosed | ⟨_, hRoom⟩
    · rw [((hBalanced.refreshed now hSound).idle (by simp [hClosed])).1]
      decide
    · omega
  case succeeded_lt =>
    intro now
    have hLt := (hBalanced.refreshed now hSound).le_quota.2
    omega
  case slot_taken =>
    intro now k c hEpoch hCall hHalf hCurrent
    have hRefreshed : Sound (w.refreshed s now) := hSound.refreshed
    rw [hRefreshed.current_iff hEpoch hCall] at hCurrent
    exact (hBalanced.refreshed now hSound).inFlight_pos hHalf hCall hCurrent
  case refused_iff => exact hRefused
  case refused_inFlight =>
    intro now hAnswer
    obtain ⟨hHalf, hFull⟩ := (hRefused now).mp hAnswer
    have hUnfinished := hBalanced.unfinished hHalf
    rw [hBalanced.successes hHalf] at hUnfinished
    omega

def twoProbes : BreakerSettings :=
  { BreakerSettings.standard with
    maxHalfOpenRequests := 2
    consecutiveFailureThreshold := 1
    openTimeoutMs := 1000 }

/-- The first half-open episode ends by the failure of one of its probes while the other goes on;
the second takes two more. -/
def reprobing : List Step :=
  [⟨0, .start⟩, ⟨0, .settle 0 (some .failure)⟩,
    ⟨1000000000, .start⟩, ⟨1000000000, .start⟩, ⟨1000000000, .settle 1 (some .failure)⟩,
    ⟨2000000000, .start⟩, ⟨2000000000, .start⟩]

theorem probes_accounted_reprobing :
    (run twoProbes 0 reprobing).epoch < 2 ^ 64 ∧
      (run twoProbes 0 reprobing).machine.state = .halfOpen ∧
      ProbesAccounted twoProbes (run twoProbes 0 reprobing) := by
  have hEpoch : (run twoProbes 0 reprobing).epoch < 2 ^ 64 := by decide
  have hHalf : (run twoProbes 0 reprobing).machine.state = .halfOpen := by decide
  exact ⟨hEpoch, hHalf, probes_accounted twoProbes 0 reprobing hEpoch⟩

end CallGuard.Session
