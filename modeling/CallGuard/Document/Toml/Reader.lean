import CallGuard.Document.Toml.Scalars
import CallGuard.Document.Toml.Tables

/-!
# Reading TOML

A text is read line by line into the entries before the first header and the sections after it,
from which the root table is then built.
-/

namespace CallGuard.Toml

mutual

/-- A value; `depth` is how many levels of lists and inline tables it may have. -/
def value? : (fuel depth : Nat) → List Char → Option (Document × List Char)
  | 0, _, _ => none
  | fuel + 1, depth, cs =>
    match cs, depth with
    | '[' :: rest, depth + 1 => items? fuel depth [] rest
    | '\x7b' :: rest, depth + 1 =>
      match skipBlanks rest with
      | '\x7d' :: rest => some (.table [], rest)
      | rest => pairs? fuel depth [] rest
    | '"' :: _, _ | '\'' :: _, _ => (string? cs).map fun (s, rest) => (.text s, rest)
    | _, _ => scalar? cs

/-- The items of a list after those already read, which stand in reverse order. -/
def items? : (fuel depth : Nat) → List Document → List Char → Option (Document × List Char)
  | 0, _, _, _ => none
  | fuel + 1, depth, read, cs =>
    match skipGap cs.length cs with
    | ']' :: rest => some (.list read.reverse, rest)
    | cs =>
      match value? fuel depth cs with
      | none => none
      | some (v, rest) =>
        match skipGap rest.length rest with
        | ',' :: rest => items? fuel depth (v :: read) rest
        | ']' :: rest => some (.list (v :: read).reverse, rest)
        | _ => none

/-- The entries of an inline table after those already read, which stand in reverse order. -/
def pairs? : (fuel depth : Nat) → List (List String × Document) → List Char →
    Option (Document × List Char)
  | 0, _, _, _ => none
  | fuel + 1, depth, read, cs =>
    match key? (nestingLimit - 1) cs with
    | some (key, '=' :: rest) =>
      match value? fuel depth (skipBlanks rest) with
      | none => none
      | some (v, rest) =>
        let read := (key, v) :: read
        match skipBlanks rest with
        | ',' :: rest => pairs? fuel depth read rest
        | '\x7d' :: rest =>
          (assignAll read.reverse []).map fun entries => (.table (toDocuments entries), rest)
        | _ => none
    | _ => none

end

inductive Line where
  | blank
  | header (path : List String) (isItem : Bool)
  | pair (key : List String) (value : Document)

def headerLine? (isItem : Bool) (cs : List Char) : Option (Line × List Char) := do
  let (path, rest) ← key? (nestingLimit - 1) cs
  let rest ← Text.expect? ']' rest
  let rest ← if isItem then Text.expect? ']' rest else some rest
  let rest ← lineTail? rest
  some (.header path isItem, rest)

def pairLine? (cs : List Char) : Option (Line × List Char) := do
  let (key, rest) ← key? (nestingLimit - 1) cs
  let rest ← Text.expect? '=' rest
  let (v, rest) ← value? (rest.length + 1) (nestingLimit - 1) (skipBlanks rest)
  let rest ← lineTail? rest
  some (.pair key v, rest)

/-- One line, which for a value over several lines is more than one. -/
def line? (cs : List Char) : Option (Line × List Char) :=
  match skipBlanks cs with
  | '[' :: '[' :: rest => headerLine? true rest
  | '[' :: rest => headerLine? false rest
  | '#' :: rest => (lineTail? ('#' :: rest)).map fun rest => (.blank, rest)
  | [] => some (.blank, [])
  | cs =>
    match newline? cs with
    | some rest => some (.blank, rest)
    | none => pairLine? cs

def lines? : Nat → List Char → Option (List Line)
  | _, [] => some []
  | 0, _ => none
  | fuel + 1, cs => do
    let (line, rest) ← line? cs
    let lines ← lines? fuel rest
    some (line :: lines)

/-- The entries in front of the first header, and the sections. -/
def sections : List Line → List (List String × Document) × List Section
  | [] => ([], [])
  | .blank :: rest => sections rest
  | .pair key v :: rest =>
    let (pairs, later) := sections rest
    ((key, v) :: pairs, later)
  | .header path isItem :: rest =>
    let (pairs, later) := sections rest
    ([], ⟨path, isItem, pairs⟩ :: later)

def skipByteOrderMark : List Char → List Char
  | '\ufeff' :: rest => rest
  | cs => cs

def read? (s : String) : Option Document := do
  let cs := skipByteOrderMark s.toList
  let lines ← lines? (cs.length + 1) cs
  let (pairs, later) := sections lines
  let root ← assignAll pairs []
  let root ← later.foldlM (fun root part => part.addTo root) root
  some (.table (toDocuments root))

end CallGuard.Toml
