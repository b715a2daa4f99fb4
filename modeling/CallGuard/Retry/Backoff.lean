import CallGuard.Decimal.Shortest
import CallGuard.Time.Span

/-!
# Waits

The wait after a failed attempt grows by a constant factor and is rounded to whole nanoseconds.
A random part may come on top of it.
-/

namespace CallGuard.Retry

/-- Repeated squaring: `r` times the `n`-th power of `a`. -/
def powerFrom (r a : Float) (n : Nat) : Float :=
  if n = 0 then r
  else powerFrom (if n % 2 = 1 then r * a else r) (a * a) (n / 2)
termination_by n
decreasing_by omega

def power (a : Float) (n : Nat) : Float := powerFrom 1.0 a n

/-- A coefficient that is no finite number of at least one counts as one. -/
def effectiveCoefficient (c : Float) : Float := if c.isFinite && 1.0 ≤ c then c else 1.0

/-- The exponent of the factor is a word of thirty-two bits with a sign. -/
def largestExponent : Nat := 2147483647

/-- The nearest natural number, a half going up, of a float that is not negative and not
infinite. -/
def nearestNat? (x : Float) : Option Nat :=
  match Decimal.parts x with
  | .finite false m =>
    some ((2 * m.mantissa * Nat.pow 2 m.exponent.toNat + Nat.pow 2 (-m.exponent).toNat)
      / (2 * Nat.pow 2 (-m.exponent).toNat))
  | _ => none

/-- The span of a number of nanoseconds, the longest one from 2^64 nanoseconds on. -/
def spanOfFloat (x : Float) : Span :=
  match nearestNat? x with
  | some n => if n < 18446744073709551616 then Span.ofNanos n else Span.longest
  | none => Span.longest

/-- The wait after the attempt with a given number, counted from zero. An empty cap is none. -/
def backoff (attempt : Nat) (initial : Span) (coefficient : Float) (cap : Span) : Span :=
  let factor := power (effectiveCoefficient coefficient) (min attempt largestExponent)
  let delay := spanOfFloat (Float.ofNat initial.nanos * factor)
  if cap.nanos = 0 then delay else delay.shorter cap

/-- How many different random parts there are: the whole nanoseconds of a fraction of the
delay, at most the whole delay. -/
def jitterRange (delay : Span) (jitter : Float) : Nat :=
  if jitter.isNaN || jitter ≤ 0.0 then 0
  else (Float.ofNat delay.nanos * (if jitter ≤ 1.0 then jitter else 1.0)).toUInt64.toNat

def withJitter (delay : Span) (jitter : Float) (draw : Nat) : Span :=
  let range := jitterRange delay jitter
  if range = 0 then delay else delay.add (Span.ofNanos (draw % range))

end CallGuard.Retry
