/-!
# Documents

The value that a settings file or a report holds, whatever format it is written in.
-/

namespace CallGuard

inductive Document where
  | null
  | boolean (value : Bool)
  | integer (value : Int)
  | real (value : Float)
  | text (value : String)
  /-- A date or a time. Nothing that is set has this form. -/
  | moment
  | list (items : List Document)
  | table (entries : List (String × Document))

namespace Document

/-- The entry of a table with a name, if the document is a table that has one. -/
def get? (d : Document) (name : String) : Option Document :=
  match d with
  | table entries => entries.lookup name
  | _ => none

end Document

inductive Format where
  | toml
  | json
deriving DecidableEq

end CallGuard
