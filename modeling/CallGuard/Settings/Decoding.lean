import CallGuard.Document.Basic
import CallGuard.Settings.Basic

/-!
# Settings from documents

A group of settings is a table in which unknown names are ignored and missing ones keep their
standard value. It may also be a list, whose items then are the settings in their order.
-/

namespace CallGuard

namespace Document

def boolean? : Document → Option Bool
  | boolean b => some b
  | _ => none

def text? : Document → Option String
  | text s => some s
  | _ => none

def word32? : Document → Option UInt32
  | integer n => if 0 ≤ n ∧ n < 4294967296 then some (UInt32.ofNat n.toNat) else none
  | _ => none

def word64? : Document → Option UInt64
  | integer n => if 0 ≤ n ∧ n < 18446744073709551616 then some (UInt64.ofNat n.toNat) else none
  | _ => none

def floatOfInt (n : Int) : Float :=
  if n < 0 then -(Float.ofNat n.natAbs) else Float.ofNat n.natAbs

/-- An integer is accepted where a float is asked for. -/
def float? : Document → Option Float
  | real x => some x
  | integer n => some (floatOfInt n)
  | _ => none

/-- The settings of a group by their names, if the document is a group. A list may be shorter
than the group; in JSON it may not be longer. A moment is a group without settings. -/
def group? (format : Format) (names : List String) : Document → Option (List (String × Document))
  | table entries => some entries
  | list items =>
    if format = .json ∧ names.length < items.length then none else some (names.zip items)
  | moment => some []
  | _ => none

/-- The setting with a name: its standard value if it is missing, nothing if it does not fit. -/
def setting? {α : Type} (group : List (String × Document)) (name : String)
    (decode : Document → Option α) (standard : α) : Option α :=
  match group.lookup name with
  | none => some standard
  | some d => decode d

end Document

namespace Backend

/-- What may stand beside the name of a choice that has no parts. -/
def isVoid (format : Format) : Document → Bool
  | .null => format == .json
  | .table [] | .list [] => format == .toml
  | _ => false

/-- A backend is given by its name, or by a table with the name and nothing beside it. -/
def ofDocument? (format : Format) : Document → Option Backend
  | .text s => ofName? s
  | .table [(name, d)] => if isVoid format d then ofName? name else none
  | _ => none

end Backend

def BreakerSettings.names : List String :=
  ["name", "kind", "enabled", "max_half_open_requests", "closed_window_interval_ms",
   "open_timeout_ms", "consecutive_failure_threshold", "bucket_period_ms"]

def BreakerSettings.ofDocument? (format : Format) (d : Document) : Option BreakerSettings := do
  let group ← d.group? format names
  let kind ← Document.setting? group "kind" (Backend.ofDocument? format) standard.kind
  let name ← Document.setting? group "name" Document.text? standard.name
  let enabled ← Document.setting? group "enabled" Document.boolean? standard.enabled
  let probes ←
    Document.setting? group "max_half_open_requests" Document.word32? standard.maxHalfOpenRequests
  let window ←
    Document.setting? group "closed_window_interval_ms" Document.word64?
      standard.closedWindowIntervalMs
  let timeout ← Document.setting? group "open_timeout_ms" Document.word64? standard.openTimeoutMs
  let threshold ←
    Document.setting? group "consecutive_failure_threshold" Document.word32?
      standard.consecutiveFailureThreshold
  let period ← Document.setting? group "bucket_period_ms" Document.word64? standard.bucketPeriodMs
  some
    { name := name
      kind := kind
      enabled := enabled
      maxHalfOpenRequests := probes
      closedWindowIntervalMs := window
      openTimeoutMs := timeout
      consecutiveFailureThreshold := threshold
      bucketPeriodMs := period }

def RetrySettings.names : List String :=
  ["enabled", "max_attempts", "initial_interval_ms", "backoff_coefficient", "max_interval_ms",
   "jitter"]

def RetrySettings.ofDocument? (format : Format) (d : Document) : Option RetrySettings := do
  let group ← d.group? format names
  let enabled ← Document.setting? group "enabled" Document.boolean? standard.enabled
  let attempts ← Document.setting? group "max_attempts" Document.word32? standard.maxAttempts
  let initial ←
    Document.setting? group "initial_interval_ms" Document.word64? standard.initialIntervalMs
  let coefficient ←
    Document.setting? group "backoff_coefficient" Document.float? standard.backoffCoefficient
  let cap ← Document.setting? group "max_interval_ms" Document.word64? standard.maxIntervalMs
  let jitter ← Document.setting? group "jitter" Document.float? standard.jitter
  some
    { enabled := enabled
      maxAttempts := attempts
      initialIntervalMs := initial
      backoffCoefficient := coefficient
      maxIntervalMs := cap
      jitter := jitter }

def ObservabilitySettings.names : List String :=
  ["log_level", "metrics_enabled", "metrics_address"]

def ObservabilitySettings.ofDocument? (format : Format) (d : Document) :
    Option ObservabilitySettings := do
  let group ← d.group? format names
  let level ← Document.setting? group "log_level" Document.text? standard.logLevel
  let enabled ← Document.setting? group "metrics_enabled" Document.boolean? standard.metricsEnabled
  let address ← Document.setting? group "metrics_address" Document.text? standard.metricsAddress
  some ⟨level, enabled, address⟩

namespace Settings

def names : List String := ["observability", "retry", "breakers"]

def breakersOfDocument? (format : Format) : Document → Option (List BreakerSettings)
  | .list items => items.mapM (BreakerSettings.ofDocument? format)
  | _ => none

def ofDocument? (format : Format) (d : Document) : Option Settings := do
  let group ← d.group? format names
  let observability ←
    Document.setting? group "observability" (ObservabilitySettings.ofDocument? format)
      standard.observability
  let retry ← Document.setting? group "retry" (RetrySettings.ofDocument? format) standard.retry
  let breakers ← Document.setting? group "breakers" (breakersOfDocument? format) standard.breakers
  some ⟨observability, retry, breakers⟩

end Settings

end CallGuard
