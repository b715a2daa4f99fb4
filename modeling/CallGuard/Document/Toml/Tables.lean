import CallGuard.Document.Basic
import CallGuard.Keyed

/-!
# Tables of TOML

A table is made by its header, by a header or a key below it, or by a dotted key. Which of
these it was decides whether it may be named and extended again.
-/

namespace CallGuard.Toml

inductive Origin where
  | header
  /-- By a header below it, before its own header. -/
  | implied
  /-- By a dotted key. -/
  | dotted
deriving DecidableEq

inductive Node where
  | value (document : Document)
  | table (origin : Origin) (entries : List (String × Node))
  /-- Tables of one name, the latest first. -/
  | tables (latest : List (String × Node)) (earlier : List (List (String × Node)))

abbrev Entries := List (String × Node)

/-- Changes the table that a path leads to. Missing tables are made on the way. A dotted key may
not lead through a table that has a header. -/
def descend (dotted : Bool) (change : Origin → Entries → Option Entries) :
    List String → Origin → Entries → Option Entries
  | [], origin, entries => change origin entries
  | name :: path, _, entries =>
    match entries.lookup name with
    | none =>
      let origin := if dotted then Origin.dotted else Origin.implied
      (descend dotted change path origin []).map fun sub =>
        Keyed.put name (.table origin sub) entries
    | some (.value _) => none
    | some (.table origin sub) =>
      if dotted ∧ origin = .header then none
      else (descend dotted change path origin sub).map fun sub =>
        Keyed.put name (.table origin sub) entries
    | some (.tables latest earlier) =>
      (descend dotted change path .header latest).map fun latest =>
        Keyed.put name (.tables latest earlier) entries

/-- Adds an entry under a key. A name may not occur twice, and a dotted key may only reach into
a table that dotted keys have made. -/
def assign (path : List String) (name : String) (value : Document) (entries : Entries) :
    Option Entries :=
  descend true
    (fun origin entries =>
      if !path.isEmpty && origin != .dotted then none
      else if (entries.lookup name).isSome then none
      else some (entries ++ [(name, .value value)]))
    path .header entries

/-- A key in front of its last part, and that part. -/
def splitLast : List String → Option (List String × String)
  | [] => none
  | [name] => some ([], name)
  | name :: rest => (splitLast rest).map fun (path, last) => (name :: path, last)

def assignAll (pairs : List (List String × Document)) (entries : Entries) : Option Entries :=
  pairs.foldlM
    (fun entries pair => do
      let (path, name) ← splitLast pair.1
      assign path name pair.2 entries)
    entries

mutual

def Node.toDocument : Node → Document
  | .value d => d
  | .table _ entries => .table (toDocuments entries)
  | .tables latest earlier => .list (toDocumentLists earlier ++ [.table (toDocuments latest)])

def toDocuments : Entries → List (String × Document)
  | [] => []
  | (name, node) :: rest => (name, node.toDocument) :: toDocuments rest

/-- Tables that stand with the latest first, as documents in the order of the text. -/
def toDocumentLists : List Entries → List Document
  | [] => []
  | entries :: earlier => toDocumentLists earlier ++ [.table (toDocuments entries)]

end

structure Section where
  path : List String
  /-- Whether the header adds a table to a list of tables. -/
  isItem : Bool
  pairs : List (List String × Document)

/-- Adds the table of a section. A table may have one header only. -/
def Section.addTo (s : Section) (root : Entries) : Option Entries := do
  let (path, name) ← splitLast s.path
  descend false
    (fun _ entries =>
      match entries.lookup name, s.isItem with
      | none, true => (assignAll s.pairs []).map fun e => Keyed.put name (.tables e []) entries
      | some (.tables latest earlier), true =>
        (assignAll s.pairs []).map fun e => Keyed.put name (.tables e (latest :: earlier)) entries
      | none, false => (assignAll s.pairs []).map fun e => Keyed.put name (.table .header e) entries
      | some (.table .implied sub), false =>
        (assignAll s.pairs sub).map fun e => Keyed.put name (.table .header e) entries
      | _, _ => none)
    path .header root

end CallGuard.Toml
