import CallGuard.Counting.Counts
import CallGuard.Time.Instant

/-!
# Rolling windows

Time is cut into periods numbered from the origin. The events of a period share a bucket; a
bucket whose number has fallen behind by the capacity no longer counts. Sums are sums of words.
-/

namespace CallGuard

/-- The events of one period. The trailing numbers are those since the last event of the
opposite kind in this bucket. -/
structure Bucket where
  index : Nat
  requests : UInt32
  successes : UInt32
  failures : UInt32
  trailingSuccesses : UInt32
  trailingFailures : UInt32
deriving DecidableEq

namespace Bucket

def empty (index : Nat) : Bucket := ⟨index, 0, 0, 0, 0, 0⟩

def record (b : Bucket) : Event → Bucket
  | .request => { b with requests := b.requests + 1 }
  | .success =>
    { b with
      successes := b.successes + 1
      trailingSuccesses := b.trailingSuccesses + 1
      trailingFailures := 0 }
  | .failure =>
    { b with
      failures := b.failures + 1
      trailingFailures := b.trailingFailures + 1
      trailingSuccesses := 0 }

end Bucket

/-- The largest number of a period; all later periods share it. -/
def lastIndex : Nat := 18446744073709551615

/-- Buckets stand with the newest first. -/
structure Rolling where
  origin : Instant
  period : Nat
  capacity : Nat
  buckets : List Bucket
deriving DecidableEq

namespace Rolling

/-- A window of a given length in periods of a given length, both at least one nanosecond. -/
def create (window period : Span) (now : Instant) : Rolling :=
  let p := max period.nanos 1
  { origin := now
    period := p
    capacity := min (max ((window.nanos + p - 1) / p) 1) lastIndex
    buckets := [] }

def indexAt (r : Rolling) (now : Instant) : Nat :=
  min (Instant.nanosSince now r.origin / r.period) lastIndex

def isExpired (capacity current : Nat) (b : Bucket) : Bool :=
  min (b.index + capacity) lastIndex ≤ current

/-- Drops expired buckets from the oldest on, up to the first one that is not. -/
def dropExpired (capacity current : Nat) : List Bucket → List Bucket
  | [] => []
  | b :: older =>
    match dropExpired capacity current older with
    | [] => if isExpired capacity current b then [] else [b]
    | kept => b :: kept

def expire (r : Rolling) (now : Instant) : Rolling :=
  { r with buckets := dropExpired r.capacity (r.indexAt now) r.buckets }

/-- Records an event in the newest bucket, which is opened if its period is another. -/
def recordIn (index : Nat) (e : Event) : List Bucket → List Bucket
  | [] => [(Bucket.empty index).record e]
  | b :: older =>
    if b.index = index then b.record e :: older
    else (Bucket.empty index).record e :: b :: older

def record (r : Rolling) (now : Instant) (e : Event) : Rolling :=
  let r := r.expire now
  { r with buckets := recordIn (r.indexAt now) e r.buckets }

def clear (r : Rolling) : Rolling := { r with buckets := [] }

/-- The failures since the last success, from the newest bucket back. -/
def failureStreak : List Bucket → UInt32
  | [] => 0
  | b :: older =>
    if 0 < b.successes then b.trailingFailures else b.trailingFailures + failureStreak older

/-- The successes since the last failure, from the newest bucket back. -/
def successStreak : List Bucket → UInt32
  | [] => 0
  | b :: older =>
    if 0 < b.failures then b.trailingSuccesses else b.trailingSuccesses + successStreak older

def total (field : Bucket → UInt32) (buckets : List Bucket) : UInt32 :=
  (buckets.map field).foldr (· + ·) 0

def tally (buckets : List Bucket) : Counts where
  requests := total Bucket.requests buckets
  totalSuccesses := total Bucket.successes buckets
  totalFailures := total Bucket.failures buckets
  consecutiveSuccesses := successStreak buckets
  consecutiveFailures := failureStreak buckets

end Rolling

end CallGuard
