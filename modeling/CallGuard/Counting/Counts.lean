/-!
# Counts

What a breaker knows about the calls of its window: how many were let through, how many ended
well and badly, and how many of the latest ended alike. A count that has reached the largest
word stays there.
-/

namespace CallGuard

inductive Event where
  | request
  | success
  | failure
deriving DecidableEq

structure Counts where
  requests : UInt32
  totalSuccesses : UInt32
  totalFailures : UInt32
  consecutiveSuccesses : UInt32
  consecutiveFailures : UInt32
deriving DecidableEq

/-- The next number, or the largest word if there is none. -/
def increase (n : UInt32) : UInt32 := if n = 4294967295 then n else n + 1

theorem toNat_increase (n : UInt32) : (increase n).toNat = min (n.toNat + 1) 4294967295 := by
  have bound := n.toNat_lt
  unfold increase
  split
  · next h => subst h; rfl
  · next h =>
    have different : n.toNat ≠ 4294967295 := fun same => h (UInt32.toNat_inj.mp same)
    rw [UInt32.toNat_add]
    change (n.toNat + 1) % 2 ^ 32 = _
    omega

namespace Counts

def zero : Counts := ⟨0, 0, 0, 0, 0⟩

/-- Counts one more event. A success ends a streak of failures, and the other way round. -/
def record (c : Counts) : Event → Counts
  | .request => { c with requests := increase c.requests }
  | .success =>
    { c with
      totalSuccesses := increase c.totalSuccesses
      consecutiveSuccesses := increase c.consecutiveSuccesses
      consecutiveFailures := 0 }
  | .failure =>
    { c with
      totalFailures := increase c.totalFailures
      consecutiveFailures := increase c.consecutiveFailures
      consecutiveSuccesses := 0 }

def ofEvents (events : List Event) : Counts := events.foldl record zero

@[simp] theorem ofEvents_nil : ofEvents [] = zero := rfl

theorem ofEvents_append_singleton (events : List Event) (e : Event) :
    ofEvents (events ++ [e]) = (ofEvents events).record e := by
  simp [ofEvents]

end Counts

end CallGuard
