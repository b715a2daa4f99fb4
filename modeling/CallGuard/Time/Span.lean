/-!
# Spans of time

A span is a number of nanoseconds that never exceeds the longest span. Sums and conversions
that would exceed it stop there.
-/

namespace CallGuard

/-- The nanoseconds of 2^64 - 1 seconds and 999999999 nanoseconds. -/
def longestNanos : Nat := 18446744073709551615999999999

structure Span where
  nanos : Nat
  nanos_le : nanos ≤ longestNanos
deriving DecidableEq

namespace Span

def zero : Span := ⟨0, Nat.zero_le _⟩

def longest : Span := ⟨longestNanos, Nat.le_refl _⟩

/-- The span of `n` nanoseconds, or the longest one. -/
def ofNanos (n : Nat) : Span := ⟨min n longestNanos, Nat.min_le_right _ _⟩

def ofMillis (ms : UInt64) : Span where
  nanos := ms.toNat * 1000000
  nanos_le := by
    have := ms.toNat_lt
    simp only [longestNanos]
    omega

instance : LE Span := ⟨fun a b => a.nanos ≤ b.nanos⟩

instance (a b : Span) : Decidable (a ≤ b) := inferInstanceAs (Decidable (a.nanos ≤ b.nanos))

def shorter (a b : Span) : Span := if a ≤ b then a else b

/-- The sum of two spans, or the longest one. -/
def add (a b : Span) : Span := ofNanos (a.nanos + b.nanos)

def millis (a : Span) : Nat := a.nanos / 1000000

/-- The digits of a fraction of `unit`, a power of ten with `places` zeros, without the zeros
at its end. -/
def fractionText (fraction places : Nat) : String :=
  let digits := Nat.toDigits 10 fraction
  let padded := List.replicate (places - digits.length) '0' ++ digits
  let kept := (padded.reverse.dropWhile (· == '0')).reverse
  if kept.isEmpty then "" else String.ofList ('.' :: kept)

def inUnit (nanos unit places : Nat) (name : String) : String :=
  toString (nanos / unit) ++ fractionText (nanos % unit) places ++ name

/-- The span in the largest unit of which it has at least one, with its exact fraction. -/
def text (a : Span) : String :=
  if 1000000000 ≤ a.nanos then inUnit a.nanos 1000000000 9 "s"
  else if 1000000 ≤ a.nanos then inUnit a.nanos 1000000 6 "ms"
  else if 1000 ≤ a.nanos then inUnit a.nanos 1000 3 "µs"
  else inUnit a.nanos 1 0 "ns"

@[simp] theorem zero_nanos : zero.nanos = 0 := rfl

@[simp] theorem ofNanos_nanos (n : Nat) : (ofNanos n).nanos = min n longestNanos := rfl

@[simp] theorem ofMillis_nanos (ms : UInt64) : (ofMillis ms).nanos = ms.toNat * 1000000 := rfl

end Span

end CallGuard
