import CallGuard.Counting.Window

/-!
# Events that repeat

Many events of one kind at one instant, counted at once.
-/

namespace CallGuard

/-- The number so many steps on, or the largest word if there is none. -/
def increaseBy (n : UInt32) (times : Nat) : UInt32 :=
  UInt32.ofNat (min (n.toNat + times) 4294967295)

namespace Counts

def recordTimes (c : Counts) (e : Event) (times : Nat) : Counts :=
  if times = 0 then c
  else
    match e with
    | .request => { c with requests := increaseBy c.requests times }
    | .success =>
      { c with
        totalSuccesses := increaseBy c.totalSuccesses times
        consecutiveSuccesses := increaseBy c.consecutiveSuccesses times
        consecutiveFailures := 0 }
    | .failure =>
      { c with
        totalFailures := increaseBy c.totalFailures times
        consecutiveFailures := increaseBy c.consecutiveFailures times
        consecutiveSuccesses := 0 }

end Counts

namespace Bucket

def recordTimes (b : Bucket) (e : Event) (times : Nat) : Bucket :=
  if times = 0 then b
  else
    match e with
    | .request => { b with requests := b.requests + UInt32.ofNat times }
    | .success =>
      { b with
        successes := b.successes + UInt32.ofNat times
        trailingSuccesses := b.trailingSuccesses + UInt32.ofNat times
        trailingFailures := 0 }
    | .failure =>
      { b with
        failures := b.failures + UInt32.ofNat times
        trailingFailures := b.trailingFailures + UInt32.ofNat times
        trailingSuccesses := 0 }

end Bucket

namespace Rolling

/-- The first event opens the bucket that the others go into. In a period that is past as soon as
it has begun, each event drops the one before it. -/
def recordTimes (r : Rolling) (now : Instant) (e : Event) : (times : Nat) → Rolling
  | 0 => r
  | more + 1 =>
    let r := r.record now e
    match (r.expire now).buckets with
    | [] => r
    | b :: older => { r with buckets := b.recordTimes e more :: older }

end Rolling

namespace Window

def recordTimes (now : Instant) (e : Event) (times : Nat) : Window → Window
  | fixed c => fixed (c.recordTimes e times)
  | rolling r => rolling (r.recordTimes now e times)

end Window

end CallGuard
