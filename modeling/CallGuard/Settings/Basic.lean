import CallGuard.Classification
import CallGuard.Time.Span

/-!
# Settings

What an operator can set, with the values that hold when nothing is said. Some zeros stand for
a value of their own; the resolved values say which.
-/

namespace CallGuard

structure BreakerSettings where
  name : String
  kind : Backend
  enabled : Bool
  maxHalfOpenRequests : UInt32
  closedWindowIntervalMs : UInt64
  openTimeoutMs : UInt64
  consecutiveFailureThreshold : UInt32
  bucketPeriodMs : UInt64
deriving DecidableEq

namespace BreakerSettings

def standard : BreakerSettings where
  name := "default"
  kind := .generic
  enabled := true
  maxHalfOpenRequests := 1
  closedWindowIntervalMs := 0
  openTimeoutMs := 60000
  consecutiveFailureThreshold := 5
  bucketPeriodMs := 0

/-- How many probes a half-open breaker admits; zero means one. -/
def quota (s : BreakerSettings) : Nat := max s.maxHalfOpenRequests.toNat 1

/-- How many counted failures in a row open the breaker; zero means five. -/
def threshold (s : BreakerSettings) : Nat :=
  if s.consecutiveFailureThreshold = 0 then 5 else s.consecutiveFailureThreshold.toNat

/-- How long the breaker stays open before it probes; zero means a minute. -/
def openTimeout (s : BreakerSettings) : Span :=
  if s.openTimeoutMs = 0 then Span.ofMillis 60000 else Span.ofMillis s.openTimeoutMs

/-- The length of the counting window; zero means that it never ends. -/
def closedWindow (s : BreakerSettings) : Option Span :=
  if s.closedWindowIntervalMs = 0 then none else some (Span.ofMillis s.closedWindowIntervalMs)

/-- The length of the periods of a rolling window; zero means that the window is fixed. -/
def bucketPeriod (s : BreakerSettings) : Option Span :=
  if s.bucketPeriodMs = 0 then none else some (Span.ofMillis s.bucketPeriodMs)

def isRolling (s : BreakerSettings) : Bool := s.closedWindow.isSome && s.bucketPeriod.isSome

theorem quota_pos (s : BreakerSettings) : 0 < s.quota := by
  unfold quota; omega

theorem threshold_pos (s : BreakerSettings) : 0 < s.threshold := by
  unfold threshold
  split
  · decide
  · next h =>
    have : s.consecutiveFailureThreshold.toNat ≠ 0 := fun zero => h (UInt32.toNat_inj.mp zero)
    omega

theorem threshold_le (s : BreakerSettings) : s.threshold ≤ 4294967295 := by
  have word := s.consecutiveFailureThreshold.toNat_lt
  unfold threshold
  split <;> omega

theorem openTimeout_pos (s : BreakerSettings) : 0 < s.openTimeout.nanos := by
  unfold openTimeout
  split
  · decide
  · next h =>
    have : s.openTimeoutMs.toNat ≠ 0 := fun zero => h (UInt64.toNat_inj.mp zero)
    rw [Span.ofMillis_nanos]
    omega

theorem exists_openTimeout_eq_ofMillis (s : BreakerSettings) :
    ∃ ms, s.openTimeout = .ofMillis ms := by
  unfold openTimeout
  split
  · exact ⟨60000, rfl⟩
  · exact ⟨s.openTimeoutMs, rfl⟩

end BreakerSettings

structure RetrySettings where
  enabled : Bool
  maxAttempts : UInt32
  initialIntervalMs : UInt64
  backoffCoefficient : Float
  maxIntervalMs : UInt64
  jitter : Float

def RetrySettings.standard : RetrySettings where
  enabled := true
  maxAttempts := 3
  initialIntervalMs := 100
  backoffCoefficient := 2.0
  maxIntervalMs := 2000
  jitter := 0.0

structure ObservabilitySettings where
  logLevel : String
  metricsEnabled : Bool
  metricsAddress : String
deriving DecidableEq

def ObservabilitySettings.standard : ObservabilitySettings where
  logLevel := "info"
  metricsEnabled := false
  metricsAddress := "0.0.0.0:9090"

structure Settings where
  observability : ObservabilitySettings
  retry : RetrySettings
  breakers : List BreakerSettings

namespace Settings

def standard : Settings := ⟨.standard, .standard, []⟩

def breaker? (s : Settings) (name : String) : Option BreakerSettings :=
  s.breakers.find? fun b => b.name == name

end Settings

end CallGuard
