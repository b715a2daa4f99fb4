import CallGuard.Proofs.Breaker.ProbeBalance
import CallGuard.Proofs.Breaker.Recording

/-!
# Conservation of requests

In a window without buckets no call of the present generation is lost and none is counted twice:
each one that was let through has ended well, ended badly, been dropped or is still in flight. No
clock has to go forward for that, since a window that is cleared as a whole looks at none.
-/

namespace CallGuard.Session

def drops (w : Session) : Nat := w.marks w.epoch (· == .ended none)

structure Conserved (c : Counts) (w : Session) : Prop where
  requests : c.requests.toNat =
    c.totalSuccesses.toNat + c.totalFailures.toNat + w.currentPermits + w.drops
  oneStreak : c.consecutiveSuccesses = 0 ∨ c.consecutiveFailures = 0
  successes : c.consecutiveSuccesses ≤ c.totalSuccesses
  failures : c.consecutiveFailures ≤ c.totalFailures

variable {s : BreakerSettings} {now : Instant} {w : Session}

/-- A call that has come to its end was booked one way or the other, or it was dropped. -/
theorem marks_ended_eq (e : Nat) (w : Session) :
    w.marks e (· != .admitted) = w.marks e (fun m => m.event? == some .success) +
      w.marks e (fun m => m.event? == some .failure) + w.marks e (· == .ended none) := by
  unfold marks
  induction w.log with
  | nil => rfl
  | cons entry log ih =>
    obtain ⟨time, epoch, mark⟩ := entry
    rcases mark with _ | _ | _ | _ | _ <;> by_cases hEpoch : epoch = e <;>
      simp [Mark.event?, Outcome.event, hEpoch, ih] <;> omega

theorem marks_admitted_eq (e : Nat) (w : Session) :
    w.marks e (· == .admitted) = w.marks e fun m => m.event? == some .request := by
  apply List.countP_congr
  rintro ⟨time, epoch, mark⟩ -
  rcases mark with _ | _ | _ | _ | _ <;> simp [Mark.event?, Outcome.event]

/-- The counts of a fixed window are those of the history of its generation. -/
structure Tallied (w : Session) : Prop where
  counts : w.machine.counter = .fixed (Counts.ofEvents (w.history.map Prod.snd))
  /-- An open machine has admitted no call in its generation. -/
  idle : w.machine.state = .opened → w.admissions = 0

namespace Tallied

theorem create (hFixed : s.isRolling = false) (created : Instant) :
    Tallied (create s created) where
  counts := by
    change Window.create s.closedWindow s.bucketPeriod created = _
    rw [BreakerSettings.window_create, hFixed]
    rfl
  idle _ := rfl

theorem clear (h : Tallied w) : w.machine.counter.clear = .fixed Counts.zero :=
  congrArg Window.clear h.counts

theorem renewed (hSound : Sound w) (hClear : w.machine.counter.clear = .fixed Counts.zero)
    (now : Instant) (state : State) : Tallied (w.renewed s now state) where
  counts := by
    rw [history_eq_nil_of_renewed hSound, renewed_machine, Machine.renew_counter, hClear]
    rfl
  idle _ := hSound.marks_later (Nat.lt_succ_self w.epoch) (· == .admitted)

theorem records {w' : Session} (h : Tallied w) (hRecords : Records s now w w') :
    Tallied w' := by
  cases hRecords with
  | unchanged hCounter hHistory hState hAdmissions =>
    constructor
    · rcases hCounter with hCounter | hCounter <;> rw [hCounter, hHistory, h.counts]
      rfl
    · rw [hState, hAdmissions]
      exact h.idle
  | extended hCounter hHistory hState =>
    constructor
    · rw [hHistory, List.map_append, List.map_singleton, Counts.ofEvents_append_singleton]
      rcases hCounter with hCounter | hCounter <;> rw [hCounter, h.counts] <;> rfl
    · exact fun hOpened => absurd hOpened hState
  | renewed hSound hClear => exact .renewed hSound (hClear.trans h.clear) now _

end Tallied

theorem tallied_invariant (hFixed : s.isRolling = false) : Invariant s Tallied where
  create created := .create hFixed created
  preserved now :=
    { renewed := fun state hSound h => .renewed hSound h.clear now state
      acts := fun hSound hEpoch h hActs => h.records (hActs.records hSound hEpoch h.idle) }

theorem toNat_saturated_of_lt {n : Nat} (hLt : n < 2 ^ 32) : (saturated n).toNat = n := by
  rw [toNat_saturated]
  omega

theorem saturated_mono {n n' : Nat} (hLe : n ≤ n') : saturated n ≤ saturated n' := by
  rw [UInt32.le_iff_toNat_le, toNat_saturated, toNat_saturated]
  omega

theorem Sound.conserved_history (hSound : Sound w) (hEpoch : w.epoch < 2 ^ 64)
    (hFew : w.admissions < 2 ^ 32) :
    Conserved (Counts.ofEvents (w.history.map Prod.snd)) w := by
  have hFits : ∀ e, (w.history.map Prod.snd).count e < 2 ^ 32 := fun e =>
    Nat.lt_of_le_of_lt (hSound.count_history_le e) hFew
  rw [Counts.ofEvents_eq]
  constructor
  case requests =>
    dsimp only
    rw [toNat_saturated_of_lt (hFits _), toNat_saturated_of_lt (hFits _),
      toNat_saturated_of_lt (hFits _), count_history, count_history, count_history,
      ← marks_admitted_eq, hSound.currentPermits_eq hEpoch]
    have hConserved := hSound.conserved w.epoch
    have hEnded := marks_ended_eq w.epoch w
    unfold drops
    omega
  case oneStreak =>
    rcases streak_eq_zero_or (e := .success) (o := .failure) (w.history.map Prod.snd) (by decide)
      with hNone | hNone
    · exact .inl (congrArg saturated hNone)
    · exact .inr (congrArg saturated hNone)
  case successes => exact saturated_mono (streak_le_count _)
  case failures => exact saturated_mono (streak_le_count _)

theorem Performs.counts_eq {x : Step} {w' : Session} {report : Report} {c c' : Counts}
    (hPerforms : Performs s x w w' report) (hAnswer : report.answer = .counts c)
    (hCounter : w'.machine.counter = .fixed c') : c = c' := by
  obtain ⟨now, action⟩ := x
  cases hPerforms with
  | idle | reset => cases hAnswer
  | acts hActs =>
    cases hAnswer
    cases hActs with
    | countsRead =>
      dsimp only at hCounter
      cases hBefore : (w.refreshed s now).machine.counter with
      | fixed c =>
        rw [hBefore] at hCounter
        exact Window.fixed.inj hCounter
      | rolling r =>
        rw [hBefore] at hCounter
        cases hCounter

/-- In every session with a fixed window the requests of the present generation are those that
were booked, those that were dropped and those still in flight, and its streaks are in order. What
a reading reports is true of the session that it leaves. -/
theorem requests_conserved (s : BreakerSettings) (created : Instant) (steps : List Step)
    (hFixed : s.isRolling = false) (hEpoch : (run s created steps).epoch < 2 ^ 64)
    (hFew : (run s created steps).admissions < 2 ^ 32) :
    (∃ c, (run s created steps).machine.counter = .fixed c ∧
        Conserved c (run s created steps)) ∧
      ∀ earlier x c, steps = earlier ++ [x] →
        ((run s created earlier).perform s x).2.answer = .counts c →
        Conserved c (run s created steps) := by
  have hTallied := (tallied_invariant hFixed).run created steps hEpoch
  have hConserved := (Sound.run (s := s) created steps).conserved_history hEpoch hFew
  refine ⟨⟨_, hTallied.counts, hConserved⟩, ?_⟩
  rintro earlier x c rfl hAnswer
  have hCounts := hTallied.counts
  rw [run_append_singleton] at hCounts
  rw [(performs_perform s x _).counts_eq hAnswer hCounts, ← run_append_singleton]
  exact hConserved

def mixedFates : List Step :=
  [⟨0, .start⟩, ⟨-5, .start⟩, ⟨3, .start⟩, ⟨2, .settle 0 (some .ignored)⟩, ⟨1, .settle 1 none⟩,
    ⟨4, .start⟩, ⟨0, .settle 3 (some .failure)⟩, ⟨0, .readCounts⟩]

theorem requests_conserved_mixedFates :
    (BreakerSettings.standard.isRolling = false ∧
        (run BreakerSettings.standard 0 mixedFates).epoch < 2 ^ 64 ∧
        (run BreakerSettings.standard 0 mixedFates).admissions < 2 ^ 32) ∧
      (run BreakerSettings.standard 0 mixedFates).machine.counter = .fixed ⟨4, 1, 1, 0, 1⟩ ∧
      (run BreakerSettings.standard 0 mixedFates).currentPermits = 1 ∧
      (run BreakerSettings.standard 0 mixedFates).drops = 1 ∧
      Conserved ⟨4, 1, 1, 0, 1⟩ (run BreakerSettings.standard 0 mixedFates) := by
  have hFixed : BreakerSettings.standard.isRolling = false := by decide
  have hEpoch : (run BreakerSettings.standard 0 mixedFates).epoch < 2 ^ 64 := by decide
  have hFew : (run BreakerSettings.standard 0 mixedFates).admissions < 2 ^ 32 := by decide
  have hConserved := (requests_conserved BreakerSettings.standard 0 mixedFates hFixed hEpoch
    hFew).2 (mixedFates.take 7) ⟨0, .readCounts⟩ ⟨4, 1, 1, 0, 1⟩ rfl (by decide)
  exact ⟨⟨hFixed, hEpoch, hFew⟩, by decide, by decide, by decide, hConserved⟩

end CallGuard.Session
