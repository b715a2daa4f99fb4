import CallGuard.Document.Basic
import CallGuard.Text.Scan

/-!
# Strings and keys of TOML

A string has one of four forms, a key has parts between dots. Blanks, comments and line ends
may stand between values.
-/

namespace CallGuard.Toml

def isBlank (c : Char) : Bool := c == ' ' || c == '\t'

def skipBlanks (cs : List Char) : List Char := cs.dropWhile isBlank

/-- Whether a character may stand in a comment; strings allow no other either. -/
def isPlain (c : Char) : Bool := c == '\t' || (0x20 ≤ c.toNat && c.toNat != 0x7f)

def newline? : List Char → Option (List Char)
  | '\n' :: rest => some rest
  | '\r' :: '\n' :: rest => some rest
  | _ => none

def skipComment : List Char → List Char
  | '#' :: rest => rest.dropWhile isPlain
  | cs => cs

def lineEnd? : List Char → Option (List Char)
  | [] => some []
  | cs => newline? cs

/-- What may follow on a line: blanks, a comment and its end. -/
def lineTail? (cs : List Char) : Option (List Char) := lineEnd? (skipComment (skipBlanks cs))

def skipGap : Nat → List Char → List Char
  | 0, cs => cs
  | fuel + 1, cs =>
    let cs := skipBlanks cs
    match newline? (skipComment cs) with
    | some rest => skipGap fuel rest
    | none => cs

def codePoint? (n : Nat) (cs : List Char) : Option (Char × List Char) := do
  let (code, rest) ← Text.fixedNumber? 16 n cs
  let c ← Text.char? code
  some (c, rest)

def escape? : List Char → Option (Char × List Char)
  | 'b' :: rest => some ('\x08', rest)
  | 'f' :: rest => some ('\x0c', rest)
  | 'n' :: rest => some ('\n', rest)
  | 'r' :: rest => some ('\r', rest)
  | 't' :: rest => some ('\t', rest)
  | '"' :: rest => some ('"', rest)
  | '\\' :: rest => some ('\\', rest)
  | 'u' :: rest => codePoint? 4 rest
  | 'U' :: rest => codePoint? 8 rest
  | _ => none

/-- The rest of a string in double quotes; what is read stands in reverse order on top of
`read`. -/
def basic? : Nat → List Char → List Char → Option (List Char × List Char)
  | 0, _, _ => none
  | _ + 1, _, [] => none
  | fuel + 1, read, c :: rest =>
    if c = '"' then some (read, rest)
    else if c = '\\' then
      match escape? rest with
      | some (e, rest) => basic? fuel (e :: read) rest
      | none => none
    else if isPlain c then basic? fuel (c :: read) rest
    else none

/-- The rest of a string in single quotes, in which nothing is escaped. -/
def literal? (cs : List Char) : Option (List Char × List Char) :=
  let isInside (c : Char) : Bool := isPlain c && c != '\''
  match cs.dropWhile isInside with
  | '\'' :: rest => some (cs.takeWhile isInside, rest)
  | _ => none

/-- The number of quotes at the front, at most five. -/
def quoteRun (quote : Char) (cs : List Char) : Nat :=
  ((cs.take 5).takeWhile (· == quote)).length

/-- The rest after a backslash that ends its line: all blanks and line ends are skipped. -/
def skipFold (cs : List Char) : Option (List Char) :=
  (newline? (skipBlanks cs)).map fun rest =>
    let rec go : Nat → List Char → List Char
      | 0, cs => cs
      | fuel + 1, cs =>
        let cs := skipBlanks cs
        match newline? cs with
        | some rest => go fuel rest
        | none => cs
    go rest.length rest

/-- The rest of a string over several lines. Up to two quotes may stand inside, also right
before the three that end it. -/
def multiline? (quote : Char) : Nat → List Char → List Char → Option (List Char × List Char)
  | 0, _, _ => none
  | _ + 1, _, [] => none
  | fuel + 1, read, c :: rest =>
    if c = quote then
      let run := quoteRun quote (c :: rest)
      if 3 ≤ run then
        some (List.replicate (run - 3) quote ++ read, (c :: rest).drop run)
      else multiline? quote fuel (c :: read) rest
    else if c = '\\' ∧ quote = '"' then
      match skipFold rest with
      | some rest => multiline? quote fuel read rest
      | none =>
        match escape? rest with
        | some (e, rest) => multiline? quote fuel (e :: read) rest
        | none => none
    else
      match newline? (c :: rest) with
      | some rest => multiline? quote fuel ('\n' :: read) rest
      | none => if isPlain c then multiline? quote fuel (c :: read) rest else none

/-- A line end right after the opening quotes is not part of the string. -/
def skipFirstNewline (cs : List Char) : List Char := (newline? cs).getD cs

def multilineText? (quote : Char) (cs : List Char) : Option (String × List Char) :=
  let cs := skipFirstNewline cs
  (multiline? quote (cs.length + 1) [] cs).map fun (read, rest) =>
    (String.ofList read.reverse, rest)

def basicText? (cs : List Char) : Option (String × List Char) :=
  (basic? (cs.length + 1) [] cs).map fun (read, rest) => (String.ofList read.reverse, rest)

def literalText? (cs : List Char) : Option (String × List Char) :=
  (literal? cs).map fun (read, rest) => (String.ofList read, rest)

def string? : List Char → Option (String × List Char)
  | '"' :: '"' :: '"' :: rest => multilineText? '"' rest
  | '\'' :: '\'' :: '\'' :: rest => multilineText? '\'' rest
  | '"' :: rest => basicText? rest
  | '\'' :: rest => literalText? rest
  | _ => none

def isBare (c : Char) : Bool := c.isAlphanum || c == '-' || c == '_'

/-- One part of a key: quoted on one line, or bare. -/
def keyPart? (cs : List Char) : Option (String × List Char) :=
  match cs with
  | '"' :: rest => basicText? rest
  | '\'' :: rest => literalText? rest
  | cs =>
    let name := cs.takeWhile isBare
    if name.isEmpty then none else some (String.ofList name, cs.dropWhile isBare)

/-- The number of parts that a key must stay below, and of values inside each other. -/
def nestingLimit : Nat := 80

/-- A key: parts between dots, with blanks around each, fewer than the limit. -/
def key? : Nat → List Char → Option (List String × List Char)
  | 0, _ => none
  | room + 1, cs =>
    match keyPart? (skipBlanks cs) with
    | none => none
    | some (part, rest) =>
      match skipBlanks rest with
      | '.' :: rest => (key? room rest).map fun (parts, rest) => (part :: parts, rest)
      | rest => some ([part], rest)

end CallGuard.Toml
