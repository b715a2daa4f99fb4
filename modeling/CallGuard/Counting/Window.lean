import CallGuard.Counting.Rolling

/-!
# Windows

A breaker counts either in one window that is cleared as a whole or in a rolling one. Reading
a rolling window drops what has expired, so a reading hands back the window as well.
-/

namespace CallGuard

inductive Window where
  | fixed (counts : Counts)
  | rolling (buckets : Rolling)
deriving DecidableEq

namespace Window

/-- A window rolls if both its length and a period are given. -/
def create (window period : Option Span) (now : Instant) : Window :=
  match window, period with
  | some w, some p => rolling (Rolling.create w p now)
  | _, _ => fixed Counts.zero

def isRolling : Window → Bool
  | fixed _ => false
  | rolling _ => true

def record (now : Instant) (e : Event) : Window → Window
  | fixed c => fixed (c.record e)
  | rolling r => rolling (r.record now e)

def clear : Window → Window
  | fixed _ => fixed Counts.zero
  | rolling r => rolling r.clear

def expire (now : Instant) : Window → Window
  | fixed c => fixed c
  | rolling r => rolling (r.expire now)

def countsAt (now : Instant) : Window → Counts
  | fixed c => c
  | rolling r => Rolling.tally (r.expire now).buckets

/-- Reads the counts and drops what has expired. -/
def read (now : Instant) (w : Window) : Counts × Window := (w.countsAt now, w.expire now)

end Window

end CallGuard
