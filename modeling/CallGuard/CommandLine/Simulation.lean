import CallGuard.Breaker.Call

/-!
# Simulations

A pattern drives a breaker: a success, a failure that counts, one that is ignored, or a wait for
the open timeout. Each character gives a line, after the transitions that it caused.
-/

namespace CallGuard.CommandLine

structure Simulation where
  breaker : Breaker
  now : Instant
  lines : List String

namespace Simulation

def padded (n : Nat) : String :=
  let digits := toString n
  String.ofList (List.replicate (3 - digits.length) ' ') ++ digits

def changeLines (notices : List Notice) : List String :=
  (Notice.changes notices).map fun c => "  " ++ c.source.name ++ " -> " ++ c.target.name

def resultText : Except CallError Unit → String
  | .ok _ => "ok"
  | .error (.operation fault) => "error: " ++ fault.text
  | .error rejection => "rejected: " ++ rejection.text

def outcome? : Char → Option (Except Fault Unit)
  | 's' => some (.ok ())
  | 'f' => some (.error (Fault.io .connectionRefused))
  | 'i' => some (.error (Fault.io .permissionDenied))
  | _ => none

/-- One step of the pattern; a character that means nothing ends the simulation. -/
def step (s : BreakerSettings) (index : Nat) (input : Char) (sim : Simulation) :
    Except Simulation Simulation :=
  if input = 'w' then
    .ok
      { sim with
        now := Instant.wake sim.now s.openTimeout
        lines := sim.lines ++ [padded index ++ " wait  " ++ s.openTimeout.text] }
  else
    match outcome? input with
    | none => .error sim
    | some result =>
      let called := sim.breaker.call sim.now fun now => (result, now)
      let (state, breaker, notices) := called.breaker.state called.finished
      let line :=
        padded index ++ " " ++ String.ofList [input] ++ "     " ++ resultText called.result ++ " ["
          ++ state.name ++ "]"
      .ok
        { breaker := breaker
          now := called.finished
          lines := sim.lines ++ changeLines (called.notices ++ notices) ++ [line] }

/-- The lines of a pattern from the step `index` on, and the character that ended it early. -/
def steps (s : BreakerSettings) : (index : Nat) → List Char → Simulation → Simulation × Option Char
  | _, [], sim => (sim, none)
  | index, c :: rest, sim =>
    match sim.step s index c with
    | .ok sim => steps s (index + 1) rest sim
    | .error sim => (sim, some c)

def run (s : BreakerSettings) (pattern : String) : Simulation × Option Char :=
  steps s 0 pattern.toList ⟨(Breaker.create s s.kind.classify 0).1, 0, []⟩

end Simulation

end CallGuard.CommandLine
