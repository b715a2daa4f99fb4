import CallGuard.CommandLine.Basic

/-!
# The program

Reads the files that a command names and prints its answer.
-/

namespace CallGuard

/-- The system error with a number, which may come negated. -/
def systemErrorOfWord (code : UInt32) : SystemError :=
  SystemError.ofCode (if code < 2147483648 then code.toNat else 4294967296 - code.toNat)

def systemErrorOf : IO.Error → SystemError
  | .alreadyExists _ code _ | .interrupted _ code _ | .noFileOrDirectory _ code _
  | .invalidArgument _ code _ | .permissionDenied _ code _ | .resourceExhausted _ code _
  | .inappropriateType _ code _ | .noSuchThing _ code _ | .otherError code _
  | .resourceBusy code _ | .resourceVanished code _ | .unsupportedOperation code _
  | .hardwareFault code _ | .unsatisfiedConstraints code _ | .illegalOperation code _
  | .protocolError code _ | .timeExpired code _ => systemErrorOfWord code
  | e => ⟨5, .uncategorized, toString e⟩

def readFile (path : String) : IO Settings.Content := do
  match ← (IO.FS.readBinFile path).toBaseIO with
  | .ok bytes => pure (.ok bytes)
  | .error e => pure (.error (systemErrorOf e))

def CommandLine.Command.path? : CommandLine.Command → Option String
  | .check path => some path
  | .simulate path _ _ => some path
  | .backoff _ _ _ _ => none

end CallGuard

def main (args : List String) : IO UInt32 := do
  let path := (CallGuard.CommandLine.invocation? args).bind fun i => i.command.path?
  let content ←
    match path with
    | some p => CallGuard.readFile p
    | none => pure (.error (CallGuard.SystemError.ofCode 2))
  let answer := CallGuard.CommandLine.run (fun _ => content) args
  IO.print answer.output
  if answer.status = 2 then IO.eprintln "usage: check FILE | backoff | simulate FILE"
  match answer.failure with
  | some line => IO.eprintln line
  | none => pure ()
  pure answer.status
