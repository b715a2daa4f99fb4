import CallGuard.Proofs.Retry.Powers
import CallGuard.Proofs.Retry.Waits

/-!
# Waits that are exact

With a natural coefficient the wait after an attempt is the initial interval times a power of the
coefficient, to the nanosecond, as long as that is at most 2^53. No product on the way to the power
is larger than the power itself, apart from the last square, which is not used.
-/

namespace CallGuard

open Decimal

theorem Span.ofNanos_self (a : Span) : Span.ofNanos a.nanos = a :=
  Span.nanos_inj.mp (Nat.min_eq_left a.nanos_le)

namespace Retry

/-- Half a unit on top of a whole number does not reach the next one. -/
theorem div_half_up (n : Nat) {d : Nat} (hPos : 0 < d) : (2 * (n * d) + d) / (2 * d) = n := by
  refine Nat.div_eq_of_lt_le ?_ ?_
  · linarith
  · linarith

/-- A float is read to the nanosecond if it is a natural number. -/
theorem spanOfFloat_of_isScaled {x : Float} {m k n : Nat} (hx : IsScaled x m k)
    (hValue : m * 2 ^ k = n * 2 ^ 52) (hSmall : n ≤ 2 ^ 53) :
    spanOfFloat x = Span.ofNanos n := by
  have hShort := exponent_le hx.full hValue hSmall
  have hParts : parts x = .finite false ⟨m, k - 52⟩ := by
    rw [parts_eq, hx.unpack_eq, if_pos (by omega)]
    rfl
  have hPoint : m * 2 ^ ((k : Int) - 52).toNat = n * 2 ^ (-((k : Int) - 52)).toNat := by
    have hPlaces : ((k : Int) - 52).toNat + 52 = k + (-((k : Int) - 52)).toNat := by omega
    refine Nat.eq_of_mul_eq_mul_right (Nat.two_pow_pos 52) ?_
    rw [Nat.mul_assoc, ← Nat.pow_add, hPlaces, Nat.pow_add, ← Nat.mul_assoc, hValue,
      Nat.mul_right_comm]
  have hNearest : nearestNat? x = some n := by
    rw [nearestNat?, hParts]
    simp only [Nat.pow_eq, Nat.mul_assoc, hPoint, div_half_up n (Nat.two_pow_pos _)]
  rw [spanOfFloat, hNearest]
  exact if_pos (by omega)

theorem spanOfFloat_of_isWhole {x : Float} {n : Nat} (hx : IsWhole x n) (hSmall : n ≤ 2 ^ 53) :
    spanOfFloat x = Span.ofNanos n := by
  obtain ⟨m, k, hValue, hScaled⟩ := hx.scaled hSmall
  exact spanOfFloat_of_isScaled hScaled hValue hSmall

/-- A power that is small enough has no exponent that is cut. -/
theorem pow_min_largestExponent {c n : Nat} (hPos : 0 < c) (hSmall : c ^ n ≤ 2 ^ 53) :
    c ^ min n largestExponent = c ^ n := by
  obtain rfl | hMore := Nat.eq_or_lt_of_le (Nat.succ_le_of_lt hPos)
  · rw [Nat.one_pow, Nat.one_pow]
  · have hPower : 2 ^ n ≤ 2 ^ 53 := (Nat.pow_le_pow_left hMore n).trans hSmall
    have hFew : n ≤ 53 := (Nat.pow_le_pow_iff_right (by decide)).mp hPower
    rw [Nat.min_eq_left (hFew.trans (by decide))]

section Backoff

variable {initial : Span}

theorem backoff_of_small (hInitial : 0 < initial.nanos) {c attempt : Nat} (hPos : 0 < c)
    (hSmall : initial.nanos * c ^ attempt ≤ 2 ^ 53) (cap : Span) :
    backoff attempt initial (Float.ofNat c) cap =
      (Span.ofNanos (initial.nanos * c ^ attempt)).capped cap := by
  have hPower := pow_min_largestExponent hPos ((Nat.le_mul_of_pos_left _ hInitial).trans hSmall)
  have hWait := (IsWhole.ofNat hInitial).mul (growth_isWhole hPos attempt)
  rw [hPower] at hWait
  rw [backoff_eq, spanOfFloat_of_isWhole hWait hSmall]

/-- The first wait does not grow, whatever the coefficient is. -/
theorem backoff_zero (hInitial : 0 < initial.nanos) (hSmall : initial.nanos ≤ 2 ^ 53) (c : Float)
    (cap : Span) : backoff 0 initial c cap = initial.capped cap := by
  have hWait := (IsWhole.ofNat hInitial).mul IsWhole.one
  rw [Nat.mul_one] at hWait
  rw [backoff_eq, growth_zero, spanOfFloat_of_isWhole hWait hSmall, Span.ofNanos_self]

theorem backoff_one (hInitial : 0 < initial.nanos) (hSmall : initial.nanos ≤ 2 ^ 53)
    (attempt : Nat) (cap : Span) : backoff attempt initial 1.0 cap = initial.capped cap := by
  have hOne : (1.0 : Float) = Float.ofNat 1 := rfl
  have hFlat : initial.nanos * 1 ^ attempt = initial.nanos := by rw [Nat.one_pow, Nat.mul_one]
  have hBound : initial.nanos * 1 ^ attempt ≤ 2 ^ 53 := by rwa [hFlat]
  rw [hOne, backoff_of_small hInitial Nat.one_pos hBound cap, hFlat, Span.ofNanos_self]

end Backoff

/-- With a natural coefficient a wait of at most 2^53 nanoseconds before the cap is exact. Up to
there the first wait is the initial interval with any coefficient, and with the coefficient one
so are all waits of a schedule. -/
theorem backoff_exact {initial : Span} (hInitial : 0 < initial.nanos) (cap : Span) :
    (∀ c attempt, 0 < c → initial.nanos * c ^ attempt ≤ 2 ^ 53 →
        (backoff attempt initial (Float.ofNat c) cap).nanos =
          if cap.nanos = 0 then initial.nanos * c ^ attempt
          else min (initial.nanos * c ^ attempt) cap.nanos) ∧
      (initial.nanos ≤ 2 ^ 53 →
        (∀ coefficient, backoff 0 initial coefficient cap = initial.capped cap) ∧
        (∀ attempt, backoff attempt initial 1.0 cap = initial.capped cap) ∧
        ∀ p : RetryPolicy, p.initialInterval = initial → p.coefficient = 1.0 →
          p.maxInterval = cap → p.schedule = List.replicate p.waitCount (initial.capped cap)) := by
  refine ⟨fun c attempt hPos hSmall => ?_, fun hSmall => ⟨?_, ?_, ?_⟩⟩
  · have hLong : initial.nanos * c ^ attempt ≤ longestNanos := hSmall.trans (by decide)
    rw [backoff_of_small hInitial hPos hSmall cap, Span.capped_nanos, Span.ofNanos_nanos,
      Nat.min_eq_left hLong]
  · exact fun c => backoff_zero hInitial hSmall c cap
  · exact fun attempt => backoff_one hInitial hSmall attempt cap
  · rintro p rfl hFlat rfl
    have hWaits : p.backoff = fun _ => p.initialInterval.capped p.maxInterval := by
      funext attempt
      rw [RetryPolicy.backoff, hFlat, backoff_one hInitial hSmall attempt p.maxInterval]
    rw [RetryPolicy.schedule, RetryPolicy.firstWaits, Nat.min_self, hWaits, List.map_const',
      List.length_range]

theorem backoff_exact_doubled :
    0 < (Span.ofMillis 100).nanos ∧
      (backoff 2 (.ofMillis 100) (Float.ofNat 2) (.ofMillis 500)).nanos = 400000000 ∧
      (backoff 3 (.ofMillis 100) (Float.ofNat 2) (.ofMillis 500)).nanos = 500000000 ∧
      (backoff 26 (.ofMillis 100) (Float.ofNat 2) .zero).nanos = 6710886400000000 ∧
      backoff 0 (.ofMillis 100) (0.0 / 0.0) .zero = .ofMillis 100 := by
  have hInitial : 0 < (Span.ofMillis 100).nanos := by decide
  obtain ⟨hCapped, _⟩ := backoff_exact hInitial (.ofMillis 500)
  obtain ⟨hUncapped, hFirst⟩ := backoff_exact hInitial .zero
  refine ⟨hInitial, ?_, ?_, ?_, ?_⟩
  · exact (hCapped 2 2 (by decide) (by decide)).trans (by decide)
  · exact (hCapped 2 3 (by decide) (by decide)).trans (by decide)
  · exact (hUncapped 2 26 (by decide) (by decide)).trans (by decide)
  · exact (hFirst (by decide)).1 _

end Retry

end CallGuard
