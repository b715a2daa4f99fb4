import CallGuard.Proofs.Counting.History
import CallGuard.Settings.Basic

/-!
# The lookback of the settings

A rolling window counts what was recorded in the present period or in one of those before it that
are needed to cover its length. The periods are numbered from the creation of the machine; as long
as their numbers are in range, this is what its window counts.
-/

namespace CallGuard

theorem Rolling.isPast_eq_false_iff {i current capacity : Nat} (hOrder : i ≤ current)
    (hRange : current + capacity ≤ lastIndex) :
    isPast (min capacity lastIndex) (min current lastIndex) (min i lastIndex) = false ↔
      current < i + capacity := by
  have hCapacity : min capacity lastIndex = capacity := Nat.min_eq_left (by omega)
  have hCurrent : min current lastIndex = current := Nat.min_eq_left (by omega)
  have hIndex : min i lastIndex = i := Nat.min_eq_left (by omega)
  have hSum : min (i + capacity) lastIndex = i + capacity := Nat.min_eq_left (by omega)
  rw [isPast, hCapacity, hCurrent, hIndex, hSum, decide_eq_false_iff_not, Nat.not_le]

namespace BreakerSettings

variable (s : BreakerSettings)

def periodNanos : Nat := s.bucketPeriodMs.toNat * 1000000

def lookback : Nat :=
  (s.closedWindowIntervalMs.toNat * 1000000 + s.periodNanos - 1) / s.periodNanos

def periodOf (created t : Instant) : Nat := Instant.nanosSince t created / s.periodNanos

/-- Whether what was recorded at `t` counts at `now`: always, or within the lookback of a rolling
window. -/
def remembers (created now t : Instant) : Bool :=
  !s.isRolling || s.periodOf created now < s.periodOf created t + s.lookback

/-- At `now` no number of a period of a rolling window is cut off. -/
def InRange (created now : Instant) : Prop :=
  s.isRolling = true → s.periodOf created now + s.lookback ≤ lastIndex

variable {s}

theorem isRolling_iff :
    s.isRolling = true ↔ s.closedWindowIntervalMs ≠ 0 ∧ s.bucketPeriodMs ≠ 0 := by
  unfold isRolling closedWindow bucketPeriod
  split <;> split <;> simp_all

theorem window_create (s : BreakerSettings) (created : Instant) :
    Window.create s.closedWindow s.bucketPeriod created =
      if s.isRolling then
        .rolling (Rolling.create (.ofMillis s.closedWindowIntervalMs) (.ofMillis s.bucketPeriodMs)
          created)
      else .fixed .zero := by
  unfold isRolling closedWindow bucketPeriod
  split <;> split <;> simp_all [Window.create]

theorem periodNanos_pos (hRolling : s.isRolling = true) : 0 < s.periodNanos := by
  have hPeriod : s.bucketPeriodMs.toNat ≠ 0 := fun hZero =>
    (isRolling_iff.mp hRolling).2 (UInt64.toNat_inj.mp hZero)
  unfold periodNanos
  omega

theorem lookback_pos (hRolling : s.isRolling = true) : 0 < s.lookback := by
  have hWindow : s.closedWindowIntervalMs.toNat ≠ 0 := fun hZero =>
    (isRolling_iff.mp hRolling).1 (UInt64.toNat_inj.mp hZero)
  exact Nat.div_pos (by omega) (periodNanos_pos hRolling)

theorem create_period (hRolling : s.isRolling = true) (created : Instant) :
    (Rolling.create (.ofMillis s.closedWindowIntervalMs) (.ofMillis s.bucketPeriodMs)
      created).period = s.periodNanos := by
  simp only [Rolling.create, Span.ofMillis_nanos]
  exact Nat.max_eq_left (periodNanos_pos hRolling)

theorem create_capacity (hRolling : s.isRolling = true) (created : Instant) :
    (Rolling.create (.ofMillis s.closedWindowIntervalMs) (.ofMillis s.bucketPeriodMs)
      created).capacity = min s.lookback lastIndex := by
  have hPeriod := create_period hRolling created
  simp only [Rolling.create, Span.ofMillis_nanos] at hPeriod ⊢
  rw [hPeriod, ← lookback, Nat.max_eq_left (lookback_pos hRolling)]

theorem periodOf_mono (s : BreakerSettings) (created : Instant) {t t' : Instant}
    (hLater : t ≤ t') : s.periodOf created t ≤ s.periodOf created t' :=
  Nat.div_le_div_right (Int.toNat_le_toNat (Int.sub_le_sub_right hLater _))

theorem remembers_now (s : BreakerSettings) (created now : Instant) :
    s.remembers created now now = true := by
  unfold remembers
  cases hRolling : s.isRolling with
  | false => rfl
  | true => simpa using lookback_pos hRolling

/-- A window that has not been replaced counts at `now` what the settings say. -/
theorem covers_eq_remembers {created now t : Instant} {w : Window}
    (hWindow : w.clear = Window.create s.closedWindow s.bucketPeriod created)
    (hRange : s.InRange created now) (hPast : t ≤ now) :
    w.covers now t = s.remembers created now t := by
  rw [window_create] at hWindow
  cases w with
  | fixed c =>
    cases hRolling : s.isRolling with
    | false => simp [Window.covers, remembers, hRolling]
    | true =>
      rw [if_pos hRolling] at hWindow
      cases hWindow
  | rolling r =>
    cases hRolling : s.isRolling with
    | false =>
      rw [if_neg (by simp [hRolling])] at hWindow
      cases hWindow
    | true =>
      rw [if_pos hRolling] at hWindow
      have hClear := Window.rolling.inj hWindow
      have hOrigin : r.origin = created := congrArg Rolling.origin hClear
      have hPeriod : r.period = s.periodNanos :=
        (congrArg Rolling.period hClear).trans (create_period hRolling created)
      have hCapacity : r.capacity = min s.lookback lastIndex :=
        (congrArg Rolling.capacity hClear).trans (create_capacity hRolling created)
      have hBound := hRange hRolling
      have hMono := s.periodOf_mono created hPast
      have hIndex : ∀ u, r.indexAt u = min (s.periodOf created u) lastIndex := by
        intro u
        rw [Rolling.indexAt, hOrigin, hPeriod, periodOf]
      have hCounts := Rolling.isPast_eq_false_iff hMono hBound
      rw [Bool.eq_iff_iff, Window.covers, Rolling.covers, hIndex, hIndex, hCapacity, remembers,
        hRolling, Bool.not_eq_true', hCounts]
      simp

end BreakerSettings

end CallGuard
