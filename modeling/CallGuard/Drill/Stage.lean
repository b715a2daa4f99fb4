import CallGuard.Drill.Script
import CallGuard.Journal.Metrics
import CallGuard.Registry

/-!
# Drills

A stage holds one guard or a registry, the clock, the calls that have begun and not ended, and
the journal. Orders are carried out one after the other, and each is answered.
-/

namespace CallGuard.Drill

inductive Ground where
  | single (guard : Guard)
  | registry (registry : Registry)

namespace Ground

/-- The name of the guard that an order is for: the one it names, or the first. With a single
guard every order is for that. -/
def resolve (g : Ground) (name : Option String) : String :=
  match g with
  | single guard => guard.breaker.name
  | registry r => name.getD ((r.entries.head?.map fun e => e.1).getD "")

def guard? (g : Ground) (name : String) : Option Guard :=
  match g with
  | single guard => some guard
  | registry r => r.guard? name

def setBreaker (g : Ground) (name : String) (b : Breaker) : Ground :=
  match g with
  | single guard => single { guard with breaker := b }
  | registry r => registry (r.update name b)

/-- The classifier that can be asked for directly: that of an enabled single breaker, or one that
a registry has under a name. -/
def classifier? (g : Ground) (name : Option String) : Option Classifier :=
  match g with
  | single guard =>
    match guard.breaker with
    | .stateful _ classifier _ => some classifier
    | .disabled _ => none
  | registry r => name.bind r.classifier?

def registry? : Ground → Option Registry
  | single _ => none
  | registry r => some r

end Ground

structure Pending where
  id : String
  guard : String
  ticket : Ticket

structure Stage where
  ground : Ground
  pending : List Pending
  now : Instant
  journal : Array Notice
  draws : Nat → Nat

inductive Path where
  | generic
  | genericUnit
  | erased
  | erasedUnit
  | typed (fallback : Int64)

inductive Order where
  | call (path : Path) (outcome : Scripted) (times : Nat)
  | start (id : String)
  | finish (id : String) (outcome : Scripted)
  | drop (id : String)
  | guarded (script : List Scripted) (cancellation : Instant → Cancellation)
  | advance (nanos : Nat)
  | state
  | counts
  | reset
  | info
  | classify (fault : Fault)
  | describe
  | describeGuard
  | describeRegistry
  | names

abbrev CallResult := Except CallError (Option Int64)

inductive Reply where
  | nothing
  | flag (value : Bool)
  | text (value : String)
  | elapsed (nanos : Instant)
  | counts (value : Counts)
  | called (result : CallResult) (invoked : Nat)
  | typed (result : Except (Fallback Int64) Int64) (invoked : Nat)
  | ended (result : CallResult)
  | guarded (result : CallResult) (invocations : List (Nat × Instant)) (nanos : Instant)
  | info (name : String) (enabled : Bool)
  | names (size : Nat) (isEmpty : Bool) (maxAttempts : Nat) (names : List String)

namespace Stage

def log (s : Stage) (notices : List Notice) : Stage :=
  { s with journal := s.journal.appendList notices }

def stepped (s : Stage) (name : String) (b : Breaker) (notices : List Notice) : Stage :=
  { s.log notices with ground := s.ground.setBreaker name b }

def applied {α ε : Type} (s : Stage) (name : String) (called : Called ε α) : Stage :=
  { s.stepped name called.breaker called.notices with now := called.finished }

/-- One call through a breaker: whether the operation ran, and the reply given how many ran. -/
def callOnce (s : Stage) (name : String) (b : Breaker) (path : Path) (outcome : Scripted) :
    Stage × Bool × (Nat → Reply) :=
  match path with
  | .generic =>
    let called := b.execute s.now outcome.work
    (s.applied name called, called.invoked,
      .called ((called.result.mapError Failed.boxed).map some))
  | .genericUnit =>
    let called := b.execute s.now (outcome.work.map fun _ => ())
    (s.applied name called, called.invoked,
      .called ((called.result.mapError Failed.boxed).map fun _ => none))
  | .erased =>
    let called := b.call s.now (outcome.bare.map (Packed.mk ValueType.int64))
    (s.applied name called, called.invoked,
      .called (called.result.map fun packed => packed.unpack? ValueType.int64))
  | .erasedUnit =>
    let called := b.call s.now (outcome.bare.map fun _ => ())
    (s.applied name called, called.invoked, .called (called.result.map fun _ => none))
  | .typed fallback =>
    let called := Typed.call b s.now ValueType.int64 outcome.work fallback
    (s.applied name called, called.invoked, .typed called.result)

/-- Calls one after the other. The reply is that of the last one, with the number of operations
that ran in all. -/
def callTimes (name : String) (path : Path) (outcome : Scripted) :
    (times invoked : Nat) → Reply → Stage → Stage × Reply
  | 0, _, reply, s => (s, reply)
  | times + 1, invoked, reply, s =>
    match s.ground.guard? name with
    | none => (s, reply)
    | some g =>
      let (s, ran, answer) := s.callOnce name g.breaker path outcome
      let invoked := if ran then invoked + 1 else invoked
      callTimes name path outcome times invoked (answer invoked) s

def pending? (s : Stage) (id : String) : Option Pending :=
  s.pending.find? fun call => call.id == id

def forget (s : Stage) (id : String) : Stage :=
  { s with pending := s.pending.filter fun call => call.id != id }

def dropPending (s : Stage) (call : Pending) : Stage :=
  match s.ground.guard? call.guard with
  | none => s
  | some g =>
    let (b, notices) := g.breaker.drop s.now call.ticket
    s.stepped call.guard b notices

/-- Begins a call. An earlier one with the same name that has not ended is dropped. -/
def begin (s : Stage) (name : String) (b : Breaker) (id : String) : Stage × Reply :=
  match b.start s.now with
  | (.error e, b, notices) => (s.stepped name b notices, .ended (.error e))
  | (.ok ticket, b, notices) =>
    let s := s.stepped name b notices
    let s :=
      match s.pending? id with
      | some earlier => (s.forget id).dropPending earlier
      | none => s
    ({ s with pending := s.pending ++ [⟨id, name, ticket⟩] }, .text "pending")

def finish (s : Stage) (id : String) (outcome : Scripted) : Stage × Reply :=
  match s.pending? id with
  | none => (s, .nothing)
  | some call =>
    let s := s.forget id
    match s.ground.guard? call.guard with
    | none => (s, .nothing)
    | some g =>
      let (result, _) := outcome.operation s.now
      let (result, b, notices) := g.breaker.finish s.now call.ticket result
      (s.stepped call.guard b notices, .ended (result.map some))

def drop (s : Stage) (id : String) : Stage × Reply :=
  match s.pending? id with
  | none => (s, .flag false)
  | some call => ((s.forget id).dropPending call, .flag true)

def guarded (s : Stage) (name : String) (g : Guard) (script : List Scripted)
    (cancellation : Instant → Cancellation) : Stage × Reply :=
  let ended :=
    g.call s.draws (cancellation s.now) (fun i => (outcomeAt script i).operation) s.now
  let invocations := ended.state.invocations.map fun c => (c.1, c.2 - s.now)
  ({ s.stepped name ended.state.breaker ended.state.notices with now := ended.finished },
    .guarded ((Guard.resultOf ended).map some) invocations (ended.finished - s.now))

def performAt (s : Stage) (name : String) (g : Guard) : Order → Stage × Reply
  | .call path outcome times => callTimes name path outcome times 0 .nothing s
  | .start id => s.begin name g.breaker id
  | .guarded script cancellation => s.guarded name g script cancellation
  | .state =>
    let (state, b, notices) := g.breaker.state s.now
    (s.stepped name b notices, .text state.name)
  | .counts =>
    let (counts, b, notices) := g.breaker.counts s.now
    (s.stepped name b notices, .counts counts)
  | .reset =>
    let (b, notices) := g.breaker.reset s.now
    (s.stepped name b notices, .nothing)
  | .info => (s, .info g.breaker.name g.breaker.isEnabled)
  | .describe => (s, .text g.breaker.describe)
  | .describeGuard => (s, .text g.describe)
  | _ => (s, .nothing)

/-- Carries out an order. One for a guard that does not exist comes to nothing. -/
def perform (s : Stage) (name : Option String) (order : Order) : Stage × Reply :=
  match order with
  | .finish id outcome => s.finish id outcome
  | .drop id => s.drop id
  | .advance nanos =>
    let now := s.now + nanos
    ({ s with now := now }, .elapsed now)
  | .classify fault =>
    match s.ground.classifier? name with
    | some classifier => (s, .flag (classifier fault == .expected))
    | none => (s, .nothing)
  | .names =>
    match s.ground.registry? with
    | some r => (s, .names r.size r.isEmpty r.policy.maxAttempts.toNat r.names)
    | none => (s, .nothing)
  | .describeRegistry =>
    match s.ground.registry? with
    | some r => (s, .text r.describe)
    | none => (s, .nothing)
  | order =>
    let name := s.ground.resolve name
    match s.ground.guard? name with
    | some g => s.performAt name g order
    | none => (s, .nothing)

end Stage

/-- What can be seen after an order. -/
structure Sight where
  reply : Reply
  /-- The stored state of the breaker that the order was for. -/
  stored : Option String
  /-- Its counts and its state, if it is watched. -/
  watched : Option (Counts × State)
  /-- The transitions announced since the sight before. -/
  changes : List Change

namespace Stage

def watch (s : Stage) (name : String) : Stage × Option (Counts × State) :=
  match s.ground.guard? name with
  | none => (s, none)
  | some g =>
    let (counts, b, notices) := g.breaker.counts s.now
    let (state, b, more) := b.state s.now
    (s.stepped name b (notices ++ more), some (counts, state))

def observe (watching : Bool) (s : Stage) (name : Option String) (order : Order) :
    Stage × Sight :=
  let heard := s.journal.size
  let (s, reply) := s.perform name order
  let target := s.ground.resolve name
  let stored := (s.ground.guard? target).map fun g => g.breaker.storedLabel
  let (s, watched) := if watching then s.watch target else (s, none)
  (s, ⟨reply, stored, watched, Notice.changes (s.journal.toList.drop heard)⟩)

def observeAll (watching : Bool) :
    Stage → List (Option String × Order) → Stage × List Sight
  | s, [] => (s, [])
  | s, (name, order) :: rest =>
    let (s, sight) := s.observe watching name order
    let (s, sights) := observeAll watching s rest
    (s, sight :: sights)

/-- Ends a drill: calls that have not ended are dropped. -/
def close (s : Stage) : Stage :=
  s.pending.foldl (fun s call => s.dropPending call) { s with pending := [] }

end Stage

def Stage.ofBreaker (settings : BreakerSettings) (classifier retryClassifier : Classifier)
    (policy : RetryPolicy) (draws : Nat → Nat) : Stage :=
  let (b, notices) := Breaker.create settings classifier 0
  { ground := .single ⟨b, ⟨settings.name, policy⟩, retryClassifier⟩
    pending := []
    now := 0
    journal := notices.toArray
    draws := draws }

def Stage.ofRegistry (settings : Settings) (draws : Nat → Nat) : Stage :=
  let (r, notices) := Registry.create settings 0
  { ground := .registry r
    pending := []
    now := 0
    journal := notices.toArray
    draws := draws }

end CallGuard.Drill
