import CallGuard.Guard
import CallGuard.Keyed

/-!
# Registries

A registry holds one breaker for each name in the settings. Names stand in the order in which
they first occur; of several entries with one name the last one is kept.
-/

namespace CallGuard

structure Registered where
  settings : BreakerSettings
  breaker : Breaker

def Registered.classifier (e : Registered) : Classifier := e.settings.kind.classify

structure Registry where
  entries : List (String × Registered)
  policy : RetryPolicy
  distinct : (Keyed.keys entries).Nodup

namespace Registry

/-- Builds the breakers one after the other; each is announced, also one that a later entry
replaces. -/
def build (now : Instant) :
    List BreakerSettings → List (String × Registered) → List (String × Registered) × List Notice
  | [], entries => (entries, [])
  | s :: rest, entries =>
    let (breaker, notices) := Breaker.create s s.kind.classify now
    let (entries, more) := build now rest (Keyed.put s.name ⟨s, breaker⟩ entries)
    (entries, notices ++ more)

theorem nodup_build (now : Instant) (settings : List BreakerSettings)
    (entries : List (String × Registered)) (distinct : (Keyed.keys entries).Nodup) :
    (Keyed.keys (build now settings entries).1).Nodup := by
  induction settings generalizing entries with
  | nil => exact distinct
  | cons s rest ih => exact ih _ (Keyed.nodup_keys_put _ _ distinct)

def create (s : Settings) (now : Instant) : Registry × List Notice :=
  let built := build now s.breakers []
  ({ entries := built.1
     policy := .ofSettings s.retry
     distinct := nodup_build now s.breakers [] List.nodup_nil },
    built.2 ++ [.registryBuilt built.1.length])

def size (r : Registry) : Nat := r.entries.length

def isEmpty (r : Registry) : Bool := r.entries.isEmpty

def breakers (r : Registry) : List Breaker := r.entries.map fun e => e.2.breaker

def names (r : Registry) : List String := r.breakers.map Breaker.name

def breaker? (r : Registry) (name : String) : Option Breaker :=
  (r.entries.lookup name).map Registered.breaker

def classifier? (r : Registry) (name : String) : Option Classifier :=
  (r.entries.lookup name).map Registered.classifier

/-- The named breaker under the policy of the registry. Breaker and retrier share a classifier,
so that what the one ignores the other does not repeat. -/
def guard? (r : Registry) (name : String) : Option Guard :=
  (r.entries.lookup name).map fun e => ⟨e.breaker, ⟨name, r.policy⟩, e.classifier⟩

def update (r : Registry) (name : String) (breaker : Breaker) : Registry :=
  match r.entries.lookup name with
  | none => r
  | some e =>
    { r with
      entries := Keyed.put name ⟨e.settings, breaker⟩ r.entries
      distinct := Keyed.nodup_keys_put _ _ r.distinct }

def describe (r : Registry) : String :=
  let entry (e : String × Registered) : String :=
    Text.quoted e.1 ++ ": Entry \x7b breaker: " ++ e.2.breaker.describe ++ ", .. \x7d"
  "BreakerRegistry \x7b breakers: \x7b" ++ ", ".intercalate (r.entries.map entry)
    ++ "\x7d, order: [" ++ ", ".intercalate (r.entries.map fun e => Text.quoted e.1)
    ++ "], retry: " ++ r.policy.describe ++ " \x7d"

end Registry

end CallGuard
