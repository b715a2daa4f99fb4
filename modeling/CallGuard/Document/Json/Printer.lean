import CallGuard.Decimal.Layout
import CallGuard.Document.Basic

/-!
# Printing JSON

Reports are printed over several lines, two blanks deeper with each level. Only quotes,
backslashes and controls are escaped.
-/

namespace CallGuard.Json

def escaped (c : Char) : List Char :=
  match c with
  | '"' => ['\\', '"']
  | '\\' => ['\\', '\\']
  | '\x08' => ['\\', 'b']
  | '\x0c' => ['\\', 'f']
  | '\n' => ['\\', 'n']
  | '\r' => ['\\', 'r']
  | '\t' => ['\\', 't']
  | c =>
    if c.toNat < 0x20 then
      ['\\', 'u', '0', '0', Nat.digitChar (c.toNat / 16), Nat.digitChar (c.toNat % 16)]
    else [c]

def quoted (s : String) : String :=
  String.ofList ('"' :: s.toList.flatMap escaped ++ ['"'])

/-- The text of a document without parts. A float that is no number has no other text. -/
def scalarText : Document → String
  | .boolean b => if b then "true" else "false"
  | .integer n => toString n
  | .real x => if x.isFinite then Decimal.Layout.report.text x else "null"
  | .text s => quoted s
  | _ => "null"

def indentation (depth : Nat) : String := String.ofList (List.replicate (2 * depth) ' ')

/-- Puts parts between brackets, one on a line. -/
def bracketed (left right : String) (depth : Nat) (parts : List String) : String :=
  if parts.isEmpty then left ++ right
  else
    left ++ "\n" ++ ",\n".intercalate (parts.map fun part => indentation (depth + 1) ++ part)
      ++ "\n" ++ indentation depth ++ right

mutual

def prettyAt (depth : Nat) : Document → String
  | .list items => bracketed "[" "]" depth (prettyItems (depth + 1) items)
  | .table entries => bracketed "\x7b" "\x7d" depth (prettyEntries (depth + 1) entries)
  | d => scalarText d

def prettyItems (depth : Nat) : List Document → List String
  | [] => []
  | d :: rest => prettyAt depth d :: prettyItems depth rest

def prettyEntries (depth : Nat) : List (String × Document) → List String
  | [] => []
  | (name, d) :: rest => (quoted name ++ ": " ++ prettyAt depth d) :: prettyEntries depth rest

end

def pretty (d : Document) : String := prettyAt 0 d

mutual

def compact : Document → String
  | .list items => "[" ++ ",".intercalate (compactItems items) ++ "]"
  | .table entries => "\x7b" ++ ",".intercalate (compactEntries entries) ++ "\x7d"
  | d => scalarText d

def compactItems : List Document → List String
  | [] => []
  | d :: rest => compact d :: compactItems rest

def compactEntries : List (String × Document) → List String
  | [] => []
  | (name, d) :: rest => (quoted name ++ ":" ++ compact d) :: compactEntries rest

end

end CallGuard.Json
