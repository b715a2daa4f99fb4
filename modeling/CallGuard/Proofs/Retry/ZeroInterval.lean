import CallGuard.Proofs.Retry.Powers
import CallGuard.Proofs.Retry.Waits
import CallGuard.Settings.Validation

/-!
# Waits that start from nothing

An empty initial interval is multiplied with a factor that may grow beyond all floats. As long as
the factor is finite there is no wait. With an infinite one the product is no number, which stands
for the longest wait, so that the cap is waited for, or forever where there is none.
-/

namespace CallGuard

open Decimal

namespace Span

theorem zero_capped (cap : Span) : zero.capped cap = zero := by
  rw [← nanos_inj, capped_nanos]
  simp

theorem longest_capped (cap : Span) :
    longest.capped cap = if cap.nanos = 0 then longest else cap := by
  rw [← nanos_inj, capped_nanos]
  split
  · rfl
  · exact Nat.min_eq_right cap.nanos_le

end Span

namespace Retry

theorem zero_mul_of_isScaled {x : Float} {m k : Nat} (hx : IsScaled x m k) :
    (Float.ofNat 0 * x).toModel =
      Float.Model.pack (if k ≤ 1023 then .zero .positive else .notANumber) := by
  have hPack : (Float.ofNat 0 * x).toModel = Float.Model.pack
    (Float.Model.UnpackedFloat.mul .binary64 (.zero .positive) x.toModel.unpack) := rfl
  rw [hPack, hx.unpack_eq]
  split <;> rfl

/-- Nothing times a finite factor is nothing; nothing times infinity is no number. -/
theorem spanOfFloat_zero_mul {x : Float} {m k : Nat} (hx : IsScaled x m k) :
    spanOfFloat (Float.ofNat 0 * x) = if x.isFinite = true then .zero else .longest := by
  have hProduct := zero_mul_of_isScaled hx
  by_cases hShort : k ≤ 1023
  · have hParts : parts (Float.ofNat 0 * x) = .finite false ⟨0, -1074⟩ := by
      rw [parts_eq, hProduct, if_pos hShort]
      rfl
    have hNearest : nearestNat? (Float.ofNat 0 * x) = some 0 := by
      rw [nearestNat?, hParts]
      refine congrArg some (Nat.div_eq_of_lt ?_)
      have hUnit := Nat.two_pow_pos (-(-1074 : Int)).toNat
      simp only [Nat.mul_zero, Nat.zero_mul, Nat.pow_eq]
      omega
    rw [spanOfFloat, hNearest, if_pos (hx.isFinite_iff.mpr hShort)]
    rfl
  · have hParts : parts (Float.ofNat 0 * x) = .nan := by
      rw [parts_eq, hProduct, if_neg hShort]
      rfl
    rw [spanOfFloat, nearestNat?, hParts, if_neg (mt hx.isFinite_iff.mp hShort)]

theorem backoff_of_zero (attempt : Nat) (c : Float) (cap : Span) :
    backoff attempt .zero c cap =
      if (growth c attempt).isFinite = true then .zero
      else if cap.nanos = 0 then .longest else cap := by
  obtain ⟨m, k, hScaled⟩ := exists_isScaled_growth c attempt
  rw [backoff_eq, Span.zero_nanos, spanOfFloat_zero_mul hScaled]
  split
  · exact Span.zero_capped cap
  · exact Span.longest_capped cap

theorem backoff_of_zero_eq_zero_iff (attempt : Nat) (c : Float) (cap : Span) :
    backoff attempt .zero c cap = .zero ↔ (growth c attempt).isFinite = true := by
  rw [backoff_of_zero]
  split
  · next hFinite => exact iff_of_true rfl hFinite
  · next hInfinite =>
    refine iff_of_false ?_ hInfinite
    rw [← Span.nanos_inj]
    split
    · decide
    · assumption

/-- From an empty initial interval there is no wait after an attempt whose factor is finite, and
the cap, or the longest wait, after any other. So a schedule is without waits exactly if all its
factors are finite. With a coefficient of at most `2 ^ j` the factor is finite as long as the number
of the attempt times `j` is at most 1023; with a finite coefficient of at least `2 ^ j` it is not
once that product is 1024 or more. -/
theorem zero_interval_waits {p : RetryPolicy} (hZero : p.initialInterval = .zero) :
    (∀ attempt, p.backoff attempt =
        if (growth p.coefficient attempt).isFinite = true then .zero
        else if p.maxInterval.nanos = 0 then .longest else p.maxInterval) ∧
      ((∀ wait ∈ p.schedule, wait = .zero) ↔
        ∀ attempt < p.waitCount, (growth p.coefficient attempt).isFinite = true) ∧
      (∀ j attempt, j ≤ 1023 → p.coefficient ≤ Float.ofNat (2 ^ j) → attempt * j ≤ 1023 →
        p.backoff attempt = .zero) ∧
      ∀ j attempt, p.coefficient.isFinite = true → Float.ofNat (2 ^ j) ≤ p.coefficient →
        1024 ≤ attempt * j → p.backoff attempt ≠ .zero := by
  have hIff : ∀ attempt,
      p.backoff attempt = .zero ↔ (growth p.coefficient attempt).isFinite = true := by
    intro attempt
    rw [RetryPolicy.backoff, hZero, backoff_of_zero_eq_zero_iff]
  refine ⟨fun attempt => ?_, ?_, fun j attempt hShort hHigh hFew => ?_,
    fun j attempt hFinite hLow hMany => ?_⟩
  · rw [RetryPolicy.backoff, hZero, backoff_of_zero]
  · simp only [RetryPolicy.schedule, RetryPolicy.firstWaits, Nat.min_self, List.forall_mem_map,
      List.mem_range, hIff]
  · exact (hIff attempt).mpr (growth_finite hShort hHigh hFew)
  · rw [Ne, hIff, growth_infinite hFinite hLow hMany]
    exact Bool.false_ne_true

def impatient : RetrySettings :=
  { RetrySettings.standard with maxAttempts := 2000, initialIntervalMs := 0 }

theorem zero_interval_waits_impatient :
    (RetryPolicy.ofSettings impatient).initialInterval = .zero ∧
      (RetryPolicy.ofSettings impatient).backoff 1023 = .zero ∧
      (RetryPolicy.ofSettings impatient).backoff 1024 ≠ .zero := by
  have hZero : (RetryPolicy.ofSettings impatient).initialInterval = .zero := by decide
  obtain ⟨_, _, hFew, hMany⟩ := zero_interval_waits hZero
  refine ⟨hZero, ?_, ?_⟩
  · exact hFew 1 1023 (by decide) (by decide) (by decide)
  · exact hMany 1 1024 (by decide) (by decide) (by decide)

/-- Settings without problems whose first wait is empty have waits that are not. -/
theorem not_zero_interval_no_waits :
    ¬ ∀ s : RetrySettings, s.problems = [] → s.initialIntervalMs = 0 →
      ∀ wait ∈ (RetryPolicy.ofSettings s).schedule, wait = .zero := by
  intro hNoWaits
  have hWait : (RetryPolicy.ofSettings impatient).backoff 1024 ∈
      (RetryPolicy.ofSettings impatient).schedule :=
    List.mem_map.mpr ⟨1024, List.mem_range.mpr (by decide), rfl⟩
  have hEmpty := hNoWaits impatient (by decide) rfl _ hWait
  have hZero : (RetryPolicy.ofSettings impatient).initialInterval = .zero := by decide
  rw [RetryPolicy.backoff, hZero, backoff_of_zero_eq_zero_iff,
    growth_infinite (j := 1) (by decide) (by decide) (by decide)] at hEmpty
  exact Bool.false_ne_true hEmpty

end Retry

end CallGuard
