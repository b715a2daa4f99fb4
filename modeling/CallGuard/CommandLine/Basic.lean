import CallGuard.CommandLine.Arguments
import CallGuard.CommandLine.CheckReport
import CallGuard.CommandLine.Simulation
import CallGuard.Settings.Loading

/-!
# The command line

A command checks a file of settings, prints the waits of a policy, or simulates a breaker. Wrong
arguments are answered with status two, anything else that goes wrong with status one and a line
that says what.
-/

namespace CallGuard.CommandLine

structure Answer where
  status : UInt32
  output : String
  failure : Option String

def succeed (lines : List String) : Answer := ⟨0, String.join (lines.map (· ++ "\n")), none⟩

/-- Fails after some lines of output. -/
def fail (lines : List String) (description : String) : Answer :=
  ⟨1, String.join (lines.map (· ++ "\n")), some ("Error: " ++ description)⟩

def misuse : Answer := ⟨2, "", none⟩

def describeLoadError : LoadError → String
  | .file e => "Io(" ++ e.describe ++ ")"
  | .malformed => "Parse"
  | .invalid problems => "Validation([" ++ ", ".intercalate (problems.map Problem.describe) ++ "])"

def waitLines (p : RetryPolicy) : List String :=
  p.schedule.mapIdx fun i wait => "attempt " ++ toString (i + 1) ++ " -> wait " ++ wait.text

def simulate (s : Settings) (name pattern : String) : Answer :=
  match s.breaker? name with
  | none => fail [] (Text.quoted ("no breaker named '" ++ name ++ "' in configuration"))
  | some b =>
    match Simulation.run b pattern with
    | (sim, none) => succeed sim.lines
    | (sim, some c) =>
      fail sim.lines (Text.quoted ("unknown pattern character '" ++ String.ofList [c] ++ "'"))

def execute (files : String → Settings.Content) : Command → Answer
  | .check path =>
    match Settings.ofContent (files path) with
    | .error e => fail [] (describeLoadError e)
    | .ok s => succeed [Json.pretty (checkReport s)]
  | .backoff maxAttempts initialMs coefficient maxMs =>
    succeed
      (waitLines
        { maxAttempts := maxAttempts
          initialInterval := Span.ofMillis initialMs
          coefficient := coefficient
          maxInterval := Span.ofMillis maxMs
          jitter := 0.0 })
  | .simulate path breaker pattern =>
    match Settings.ofContent (files path) with
    | .error e => fail [] (describeLoadError e)
    | .ok s => simulate s breaker pattern

def run (files : String → Settings.Content) (args : List String) : Answer :=
  match invocation? args with
  | none => misuse
  | some i => execute files i.command

end CallGuard.CommandLine
