import CallGuard.Decimal.Layout
import CallGuard.Settings.Address
import CallGuard.Settings.Basic
import CallGuard.Text.Quoted

/-!
# Validation of settings

Every problem is reported, those of the breakers first and in their order, then those of the
retry settings, of the log level and of the address for metrics.
-/

namespace CallGuard

inductive Problem where
  | emptyBreakerName (index : Nat)
  | duplicateBreaker (name : String)
  | bucketLargerThanWindow (name : String) (bucketMs windowMs : UInt64)
  | invalidBackoffCoefficient (value : Float)
  | invalidJitter (value : Float)
  | maxIntervalBelowInitial (initialMs maxMs : UInt64)
  | invalidLogLevel (level : String)
  | invalidMetricsAddress (address : String)

namespace Problem

def kind : Problem → String
  | emptyBreakerName _ => "EmptyBreakerName"
  | duplicateBreaker _ => "DuplicateBreaker"
  | bucketLargerThanWindow _ _ _ => "BucketLargerThanWindow"
  | invalidBackoffCoefficient _ => "InvalidBackoffCoefficient"
  | invalidJitter _ => "InvalidJitter"
  | maxIntervalBelowInitial _ _ => "MaxIntervalBelowInitial"
  | invalidLogLevel _ => "InvalidLogLevel"
  | invalidMetricsAddress _ => "InvalidMetricsAddress"

def text : Problem → String
  | emptyBreakerName index => "breaker at index " ++ toString index ++ " has an empty name"
  | duplicateBreaker name => "breaker '" ++ name ++ "' is defined more than once"
  | bucketLargerThanWindow name bucketMs windowMs =>
    "breaker '" ++ name ++ "': bucket_period_ms (" ++ toString bucketMs.toNat
      ++ ") exceeds closed_window_interval_ms (" ++ toString windowMs.toNat ++ ")"
  | invalidBackoffCoefficient value =>
    "retry.backoff_coefficient must be a finite number >= 1, got "
      ++ Decimal.Layout.message.text value
  | invalidJitter value =>
    "retry.jitter must be within [0, 1], got " ++ Decimal.Layout.message.text value
  | maxIntervalBelowInitial initialMs maxMs =>
    "retry.max_interval_ms (" ++ toString maxMs.toNat ++ ") is below initial_interval_ms ("
      ++ toString initialMs.toNat ++ ")"
  | invalidLogLevel level => "unknown log level '" ++ level ++ "'"
  | invalidMetricsAddress address => "invalid metrics address '" ++ address ++ "'"

def describe (p : Problem) : String :=
  let float := Decimal.Layout.description.text
  match p with
  | emptyBreakerName index => p.kind ++ " \x7b index: " ++ toString index ++ " \x7d"
  | duplicateBreaker name => p.kind ++ "(" ++ Text.quoted name ++ ")"
  | bucketLargerThanWindow name bucketMs windowMs =>
    p.kind ++ " \x7b name: " ++ Text.quoted name ++ ", bucket_ms: " ++ toString bucketMs.toNat
      ++ ", window_ms: " ++ toString windowMs.toNat ++ " \x7d"
  | invalidBackoffCoefficient value => p.kind ++ "(" ++ float value ++ ")"
  | invalidJitter value => p.kind ++ "(" ++ float value ++ ")"
  | maxIntervalBelowInitial initialMs maxMs =>
    p.kind ++ " \x7b initial_ms: " ++ toString initialMs.toNat ++ ", max_ms: "
      ++ toString maxMs.toNat ++ " \x7d"
  | invalidLogLevel level => p.kind ++ "(" ++ Text.quoted level ++ ")"
  | invalidMetricsAddress address => p.kind ++ "(" ++ Text.quoted address ++ ")"

end Problem

namespace BreakerSettings

/-- A problem of the name of the breaker with a number, after breakers with the names `seen`. -/
def nameProblem? (seen : List String) (index : Nat) (s : BreakerSettings) : Option Problem :=
  if (Text.trimmed s.name).isEmpty then some (.emptyBreakerName index)
  else if seen.contains s.name then some (.duplicateBreaker s.name)
  else none

def windowProblem? (s : BreakerSettings) : Option Problem :=
  if s.isRolling ∧ s.closedWindowIntervalMs < s.bucketPeriodMs then
    some (.bucketLargerThanWindow s.name s.bucketPeriodMs s.closedWindowIntervalMs)
  else none

/-- The problems of breakers in order, the first of them with number `index`. -/
def problems (seen : List String) (index : Nat) : List BreakerSettings → List Problem
  | [] => []
  | s :: rest =>
    (s.nameProblem? seen index).toList ++ s.windowProblem?.toList
      ++ problems (s.name :: seen) (index + 1) rest

end BreakerSettings

namespace RetrySettings

def coefficientProblem? (s : RetrySettings) : Option Problem :=
  if !s.backoffCoefficient.isFinite || s.backoffCoefficient < 1.0 then
    some (.invalidBackoffCoefficient s.backoffCoefficient)
  else none

def jitterProblem? (s : RetrySettings) : Option Problem :=
  if 0.0 ≤ s.jitter && s.jitter ≤ 1.0 then none else some (.invalidJitter s.jitter)

def capProblem? (s : RetrySettings) : Option Problem :=
  if s.maxIntervalMs ≠ 0 ∧ s.maxIntervalMs < s.initialIntervalMs then
    some (.maxIntervalBelowInitial s.initialIntervalMs s.maxIntervalMs)
  else none

def problems (s : RetrySettings) : List Problem :=
  s.coefficientProblem?.toList ++ s.jitterProblem?.toList ++ s.capProblem?.toList

end RetrySettings

namespace ObservabilitySettings

def logLevels : List String := ["trace", "debug", "info", "warn", "error"]

/-- Log levels may be written in any case. -/
def levelProblem? (s : ObservabilitySettings) : Option Problem :=
  if logLevels.contains s.logLevel.toLower then none else some (.invalidLogLevel s.logLevel)

/-- The address matters only when metrics are exposed. -/
def addressProblem? (s : ObservabilitySettings) : Option Problem :=
  if s.metricsEnabled && (SocketAddress.read? s.metricsAddress).isNone then
    some (.invalidMetricsAddress s.metricsAddress)
  else none

def problems (s : ObservabilitySettings) : List Problem :=
  s.levelProblem?.toList ++ s.addressProblem?.toList

end ObservabilitySettings

def Settings.problems (s : Settings) : List Problem :=
  BreakerSettings.problems [] 0 s.breakers ++ s.retry.problems ++ s.observability.problems

end CallGuard
