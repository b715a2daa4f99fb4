import CallGuard.Document.Json.Printer
import CallGuard.Retry.Policy

/-!
# The report of a check

The resolved breakers and the schedule of waits, in whole milliseconds.
-/

namespace CallGuard.CommandLine

/-- The low sixty-four bits of a number of milliseconds. -/
def millisWord (span : Span) : UInt64 := UInt64.ofNat span.millis

def breakerReport (s : BreakerSettings) : Document :=
  .table
    [("bucket_period_ms", .integer s.bucketPeriodMs.toNat),
     ("closed_window_interval_ms", .integer s.closedWindowIntervalMs.toNat),
     ("enabled", .boolean s.enabled),
     ("failure_threshold", .integer s.threshold),
     ("half_open_quota", .integer s.quota),
     ("kind", .text s.kind.name),
     ("name", .text s.name),
     ("open_timeout_ms", .integer (millisWord s.openTimeout).toNat),
     ("window", .text (if s.isRolling then "rolling" else "fixed"))]

def scheduleMillis (p : RetryPolicy) : List UInt64 := p.schedule.map millisWord

def checkReport (s : Settings) : Document :=
  let policy := RetryPolicy.ofSettings s.retry
  .table
    [("breakers", .list (s.breakers.map breakerReport)),
     ("retry",
      .table
        [("jitter", .real policy.jitter),
         ("max_attempts", .integer policy.maxAttempts.toNat),
         ("schedule_ms", .list ((scheduleMillis policy).map fun ms => .integer ms.toNat))])]

end CallGuard.CommandLine
