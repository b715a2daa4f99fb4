import CallGuard.Time.Span

/-!
# Points in time

An instant is a number of nanoseconds on a clock that was started at zero. Instants before the
start exist; beyond the latest one a clock cannot go. A sleeper wakes on a whole millisecond.
-/

namespace CallGuard

abbrev Instant := Int

namespace Instant

/-- The last nanosecond of the second with the number 2^63 - 1. -/
def latest : Instant := 9223372036854775807999999999

/-- The instant `d` after `t`, if the clock reaches it. -/
def after? (t : Instant) (d : Span) : Option Instant :=
  if t + d.nanos ≤ latest then some (t + d.nanos) else none

/-- The span from `origin` to `t`, empty if `t` comes first. -/
def nanosSince (t origin : Instant) : Nat := (t - origin).toNat

def ceilMillis (t : Instant) : Instant := -(-t / 1000000) * 1000000

/-- When a sleeper that lies down at `t` for `d` wakes. An empty span takes no time. -/
def wake (t : Instant) (d : Span) : Instant :=
  if d.nanos = 0 then t else ceilMillis (t + d.nanos)

end Instant

end CallGuard
