import CallGuard.Proofs.Decimal.Whole
import CallGuard.Retry.Policy

/-!
# Powers by repeated squaring

The factor of a wait is a power that is computed with about twice as many rounded products as its
exponent has binary digits. Whatever one product keeps of its factors the whole power keeps: bounds
by powers of two, and the value of a natural number that is small enough.
-/

namespace CallGuard

open Decimal

namespace Span

/-- A wait under a cap. An empty cap is none. -/
def capped (delay cap : Span) : Span := if cap.nanos = 0 then delay else delay.shorter cap

theorem capped_nanos (delay cap : Span) :
    (delay.capped cap).nanos =
      if cap.nanos = 0 then delay.nanos else min delay.nanos cap.nanos := by
  unfold capped shorter
  split
  · rfl
  · split
    · next hLe => exact (Nat.min_eq_left hLe).symm
    · next hNot => exact (Nat.min_eq_right (Nat.le_of_not_le hNot)).symm

end Span

namespace Retry

/-- A relation between floats and what they stand for that products respect is respected by
powers. -/
theorem powerFrom_of_mul {M : Type} [CommMonoid M] {P : Float → M → Prop}
    (hMul : ∀ {x y : Float} {u v : M}, P x u → P y v → P (x * y) (u * v)) {r a : Float} {u v : M}
    (hr : P r u) (ha : P a v) (n : Nat) : P (powerFrom r a n) (u * v ^ n) := by
  fun_induction powerFrom r a n generalizing u v with
  | case1 => rwa [pow_zero, mul_one]
  | case2 r a n hMore ih =>
    have hSquare : (v * v) ^ (n / 2) = v ^ (2 * (n / 2)) := by rw [← pow_two, pow_mul]
    by_cases hOdd : n % 2 = 1
    · have hPower : u * v * (v * v) ^ (n / 2) = u * v ^ n := by
        rw [hSquare, mul_assoc, ← pow_succ', ← hOdd, Nat.div_add_mod]
      rw [dif_pos hOdd] at ih
      rw [if_pos hOdd]
      exact hPower ▸ ih (hMul hr ha) (hMul ha ha)
    · have hPower : u * (v * v) ^ (n / 2) = u * v ^ n := by
        rw [hSquare, Nat.mul_div_cancel' (by omega)]
      rw [dif_neg hOdd] at ih
      rw [if_neg hOdd]
      exact hPower ▸ ih hr (hMul ha ha)

section Powers

variable {a : Float} {j v : Nat}

theorem power_isAtMost (ha : IsAtMost a j) (n : Nat) : IsAtMost (power a n) (n * j) := by
  have hPower := powerFrom_of_mul (P := fun x (u : Multiplicative Nat) => IsAtMost x u.toAdd)
    (fun hx hy => hx.mul hy) (u := 1) IsAtMost.one (v := .ofAdd j) ha n
  rwa [one_mul, toAdd_pow, toAdd_ofAdd, smul_eq_mul] at hPower

theorem power_isAtLeast (ha : IsAtLeast a j) (n : Nat) : IsAtLeast (power a n) (n * j) := by
  have hPower := powerFrom_of_mul (P := fun x (u : Multiplicative Nat) => IsAtLeast x u.toAdd)
    (fun hx hy => hx.mul hy) (u := 1) IsAtLeast.one (v := .ofAdd j) ha n
  rwa [one_mul, toAdd_pow, toAdd_ofAdd, smul_eq_mul] at hPower

theorem power_isWhole (ha : IsWhole a v) (n : Nat) : IsWhole (power a n) (v ^ n) := by
  have hPower := powerFrom_of_mul IsWhole.mul IsWhole.one ha n
  rwa [one_mul] at hPower

end Powers

section Coefficients

variable {c : Float} {j : Nat}

theorem effectiveCoefficient_of_isScaled {m k : Nat} (hc : IsScaled c m k) (hShort : k ≤ 1023) :
    effectiveCoefficient c = c := by
  have hFinite : c.isFinite = true := hc.isFinite_iff.mpr hShort
  have hOne : 1.0 ≤ c := (isScaled_one.le_iff_of_finite hc (Nat.zero_le _) hShort).mpr (by
    have hDigits := hc.full.low
    omega)
  rw [effectiveCoefficient, hFinite, Bool.true_and, if_pos (decide_eq_true hOne)]

/-- The coefficient is either one that is used as it is, or counts as one. -/
theorem effectiveCoefficient_cases (c : Float) :
    (∃ m k, k ≤ 1023 ∧ IsScaled c m k ∧ effectiveCoefficient c = c) ∨
      effectiveCoefficient c = 1.0 := by
  by_cases hUsed : c.isFinite = true ∧ 1.0 ≤ c
  · obtain ⟨m, k, hShort, -, hc⟩ := isScaled_one.exists_of_le hUsed.1 hUsed.2
    exact .inl ⟨m, k, hShort, hc, effectiveCoefficient_of_isScaled hc hShort⟩
  · right
    rw [effectiveCoefficient, if_neg]
    rwa [Bool.and_eq_true, decide_eq_true_iff]

theorem effectiveCoefficient_isAtLeast_zero (c : Float) : IsAtLeast (effectiveCoefficient c) 0 := by
  obtain ⟨m, k, -, hc, hUsed⟩ | hUsed := effectiveCoefficient_cases c
  · rw [hUsed]
    exact ⟨m, k, Nat.zero_le k, hc⟩
  · rw [hUsed]
    exact .one

theorem effectiveCoefficient_isAtLeast (hFinite : c.isFinite = true)
    (hLow : Float.ofNat (2 ^ j) ≤ c) : IsAtLeast (effectiveCoefficient c) j := by
  obtain ⟨m, k, hShort, hAbove, hc⟩ := (isScaled_two_pow j).exists_of_le hFinite hLow
  rw [effectiveCoefficient_of_isScaled hc hShort]
  exact ⟨m, k, by omega, hc⟩

theorem effectiveCoefficient_isAtMost (hShort : j ≤ 1023) (hHigh : c ≤ Float.ofNat (2 ^ j)) :
    IsAtMost (effectiveCoefficient c) j := by
  obtain ⟨m, k, hLimit, hc, hUsed⟩ | hUsed := effectiveCoefficient_cases c
  · have hBelow := (hc.le_iff_of_finite (isScaled_two_pow j) hLimit hShort).mp hHigh
    have hDigits := hc.full.low
    rw [hUsed]
    exact ⟨m, k, by omega, hc⟩
  · rw [hUsed]
    exact ⟨2 ^ 52, 0, by omega, isScaled_one⟩

theorem effectiveCoefficient_isWhole {n : Nat} (hPos : 0 < n) :
    IsWhole (effectiveCoefficient (Float.ofNat n)) n where
  pos := hPos
  scaled hSmall := by
    obtain ⟨m, k, hValue, hc⟩ := (IsWhole.ofNat hPos).scaled hSmall
    have hShort := exponent_le hc.full hValue hSmall
    rw [effectiveCoefficient_of_isScaled hc (by omega)]
    exact ⟨m, k, hValue, hc⟩

end Coefficients

def growth (coefficient : Float) (attempt : Nat) : Float :=
  power (effectiveCoefficient coefficient) (min attempt largestExponent)

theorem backoff_eq (attempt : Nat) (initial : Span) (c : Float) (cap : Span) :
    backoff attempt initial c cap =
      (spanOfFloat (Float.ofNat initial.nanos * growth c attempt)).capped cap := rfl

theorem growth_zero (c : Float) : growth c 0 = 1.0 := by
  rw [growth, Nat.zero_min, power, powerFrom, if_pos rfl]

theorem exists_isScaled_growth (c : Float) (attempt : Nat) :
    ∃ m k, IsScaled (growth c attempt) m k := by
  obtain ⟨m, k, -, hScaled⟩ := power_isAtLeast (effectiveCoefficient_isAtLeast_zero c) _
  exact ⟨m, k, hScaled⟩

theorem growth_finite {c : Float} {j attempt : Nat} (hShort : j ≤ 1023)
    (hHigh : c ≤ Float.ofNat (2 ^ j)) (hFew : attempt * j ≤ 1023) :
    (growth c attempt).isFinite = true := by
  have hPower :=
    power_isAtMost (effectiveCoefficient_isAtMost hShort hHigh) (min attempt largestExponent)
  refine (hPower.mono (Nat.le_trans ?_ hFew)).finite
  exact Nat.mul_le_mul_right j (Nat.min_le_left _ _)

theorem growth_infinite {c : Float} {j attempt : Nat} (hFinite : c.isFinite = true)
    (hLow : Float.ofNat (2 ^ j) ≤ c) (hMany : 1024 ≤ attempt * j) :
    (growth c attempt).isFinite = false := by
  have hPower :=
    power_isAtLeast (effectiveCoefficient_isAtLeast hFinite hLow) (min attempt largestExponent)
  refine (hPower.mono ?_).infinite
  obtain rfl | hPos := Nat.eq_zero_or_pos j
  · omega
  obtain hAll | hLast := Nat.le_total attempt largestExponent
  · rwa [Nat.min_eq_left hAll]
  · rw [Nat.min_eq_right hLast]
    exact Nat.le_trans (by decide) (Nat.le_mul_of_pos_right _ hPos)

theorem growth_isWhole {c : Nat} (hPos : 0 < c) (attempt : Nat) :
    IsWhole (growth (Float.ofNat c) attempt) (c ^ min attempt largestExponent) :=
  power_isWhole (effectiveCoefficient_isWhole hPos) _

end Retry

end CallGuard
