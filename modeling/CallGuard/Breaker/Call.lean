import CallGuard.Breaker.Basic

/-!
# Running operations through a breaker

An operation takes the instant at which it begins and tells its result and the instant at which
it is done. Meanwhile others may use the same breaker.
-/

namespace CallGuard

abbrev Operation (α : Type) := Instant → Except Fault α × Instant

/-- The operation with another form of its value. -/
def Operation.map {α β : Type} (f : α → β) (operation : Operation α) : Operation β := fun now =>
  let (result, finished) := operation now
  (result.map f, finished)

/-- What the other users of a breaker do to it between two instants. -/
abbrev Bystanders := Instant → Instant → Breaker → Breaker × List Notice

def Bystanders.none : Bystanders := fun _ _ b => (b, [])

structure Called (ε α : Type) where
  result : Except ε α
  invoked : Bool
  finished : Instant
  breaker : Breaker
  notices : List Notice

namespace Breaker

/-- Runs an operation if the breaker admits it, among other users. -/
def callAmong {α : Type} (others : Bystanders) (b : Breaker) (now : Instant)
    (operation : Operation α) : Called CallError α :=
  match b.start now with
  | (.error e, b, notices) => ⟨.error e, false, now, b, notices⟩
  | (.ok ticket, b, notices) =>
    let (result, finished) := operation now
    let (b, meanwhile) := others now finished b
    let (result, b, more) := b.finish finished ticket result
    ⟨result, true, finished, b, notices ++ meanwhile ++ more⟩

def call {α : Type} (b : Breaker) (now : Instant) (operation : Operation α) :
    Called CallError α :=
  b.callAmong Bystanders.none now operation

end Breaker

end CallGuard
