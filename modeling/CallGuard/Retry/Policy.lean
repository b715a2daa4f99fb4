import CallGuard.Retry.Backoff
import CallGuard.Settings.Basic
import CallGuard.Decimal.Layout

/-!
# Retry policies

How often an operation is attempted and how long to wait in between.
-/

namespace CallGuard

structure RetryPolicy where
  maxAttempts : UInt32
  initialInterval : Span
  coefficient : Float
  maxInterval : Span
  jitter : Float

namespace RetryPolicy

def standard : RetryPolicy where
  maxAttempts := 3
  initialInterval := Span.ofMillis 100
  coefficient := 2.0
  maxInterval := Span.ofMillis 2000
  jitter := 0.0

def single : RetryPolicy := { standard with maxAttempts := 1 }

def ofSettings (s : RetrySettings) : RetryPolicy where
  maxAttempts := if s.enabled then s.maxAttempts else 1
  initialInterval := Span.ofMillis s.initialIntervalMs
  coefficient := s.backoffCoefficient
  maxInterval := Span.ofMillis s.maxIntervalMs
  jitter := s.jitter

/-- A policy that allows no second attempt is not enabled. -/
def isEnabled (p : RetryPolicy) : Bool := 1 < p.maxAttempts

/-- The wait after an attempt, counted from zero, without a random part. -/
def backoff (p : RetryPolicy) (attempt : Nat) : Span :=
  Retry.backoff attempt p.initialInterval p.coefficient p.maxInterval

def waitCount (p : RetryPolicy) : Nat := p.maxAttempts.toNat - 1

/-- The first waits, at most `limit` of them. -/
def firstWaits (p : RetryPolicy) (limit : Nat) : List Span :=
  (List.range (min limit p.waitCount)).map p.backoff

def schedule (p : RetryPolicy) : List Span := p.firstWaits p.waitCount

def describe (p : RetryPolicy) : String :=
  let float := Decimal.Layout.description.text
  "RetryPolicy \x7b max_attempts: " ++ toString p.maxAttempts.toNat
    ++ ", initial_interval: " ++ p.initialInterval.text
    ++ ", backoff_coefficient: " ++ float p.coefficient
    ++ ", max_interval: " ++ p.maxInterval.text
    ++ ", jitter: " ++ float p.jitter ++ " \x7d"

end RetryPolicy

end CallGuard
