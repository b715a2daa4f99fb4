import CallGuard.Document.Toml.Reader
import CallGuard.Settings.Decoding
import CallGuard.Settings.Validation
import CallGuard.Fault.InputOutput

/-!
# Loading settings

Settings are loaded from the bytes of a file, which have to be text, and the text has to be a
document of settings without problems.
-/

namespace CallGuard

inductive FileError where
  | system (error : SystemError)
  | notText

namespace FileError

def text : FileError → String
  | system error => error.text
  | notText => "stream did not contain valid UTF-8"

def describe : FileError → String
  | system error =>
    "Os \x7b code: " ++ toString error.code ++ ", kind: " ++ error.kind.name ++ ", message: "
      ++ Text.quoted error.message ++ " \x7d"
  | notText =>
    "Error \x7b kind: InvalidData, message: " ++ Text.quoted (text notText) ++ " \x7d"

end FileError

inductive LoadError where
  | file (error : FileError)
  | malformed
  | invalid (problems : List Problem)

namespace LoadError

def problemsText (problems : List Problem) : String :=
  "Validation failed: " ++ ", ".intercalate (problems.map Problem.text)

end LoadError

namespace Settings

def parse? (s : String) : Option Settings := (Toml.read? s).bind (ofDocument? .toml)

def validated (s : Settings) : Except LoadError Settings :=
  match s.problems with
  | [] => .ok s
  | problems => .error (.invalid problems)

def ofText (s : String) : Except LoadError Settings :=
  match parse? s with
  | some settings => settings.validated
  | none => .error .malformed

/-- The content of a file: its bytes, or the number of the system error it gives. -/
abbrev Content := Except SystemError ByteArray

def ofContent : Content → Except LoadError Settings
  | .error e => .error (.file (.system e))
  | .ok bytes =>
    match String.fromUTF8? bytes with
    | some s => ofText s
    | none => .error (.file .notText)

end Settings

end CallGuard
