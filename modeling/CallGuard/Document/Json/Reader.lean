import CallGuard.Document.Basic
import CallGuard.Keyed
import CallGuard.Text.Scan

/-!
# Reading JSON

A number without point and exponent is an integer as long as it fits a word of sixty-four bits,
with or without sign; any other number is a float. Of two members with one name the last one
holds.
-/

namespace CallGuard.Json

def skipBlanks (cs : List Char) : List Char :=
  cs.dropWhile fun c => c == ' ' || c == '\t' || c == '\n' || c == '\r'

/-- The character that an escape after its backslash stands for. A character beyond the basic
plane takes two escapes of a code unit. -/
def escape? : List Char → Option (Char × List Char)
  | '"' :: rest => some ('"', rest)
  | '\\' :: rest => some ('\\', rest)
  | '/' :: rest => some ('/', rest)
  | 'b' :: rest => some ('\x08', rest)
  | 'f' :: rest => some ('\x0c', rest)
  | 'n' :: rest => some ('\n', rest)
  | 'r' :: rest => some ('\r', rest)
  | 't' :: rest => some ('\t', rest)
  | 'u' :: rest => do
    let (unit, rest) ← Text.fixedNumber? 16 4 rest
    if 0xd800 ≤ unit ∧ unit < 0xdc00 then
      match rest with
      | '\\' :: 'u' :: rest =>
        let (low, rest) ← Text.fixedNumber? 16 4 rest
        if 0xdc00 ≤ low ∧ low < 0xe000 then
          let c ← Text.char? (0x10000 + (unit - 0xd800) * 0x400 + (low - 0xdc00))
          some (c, rest)
        else none
      | _ => none
    else
      let c ← Text.char? unit
      some (c, rest)
  | _ => none

/-- The characters up to the closing quote, in reverse order on top of `read`. -/
def string? : Nat → List Char → List Char → Option (List Char × List Char)
  | 0, _, _ => none
  | _ + 1, _, [] => none
  | fuel + 1, read, c :: rest =>
    if c = '"' then some (read, rest)
    else if c = '\\' then
      match escape? rest with
      | some (e, rest) => string? fuel (e :: read) rest
      | none => none
    else if c.toNat < 0x20 then none
    else string? fuel (c :: read) rest

def text? (cs : List Char) : Option (String × List Char) :=
  (string? (cs.length + 1) [] cs).map fun (read, rest) => (String.ofList read.reverse, rest)

/-- An integer if it fits, else the nearest float. A zero with a minus is a float. -/
def integerOrReal (negative : Bool) (digits : List Char) : Document :=
  let n := Decimal.ofDigits 10 digits
  if negative then
    if n = 0 ∨ 9223372036854775808 < n then .real (Decimal.Numeral.toFloat ⟨true, n, 0⟩)
    else .integer (-n)
  else if n < 18446744073709551616 then .integer n
  else .real (Decimal.Numeral.toFloat ⟨false, n, 0⟩)

/-- A number: no superfluous zero in front, at least one digit on each side of the point. -/
def number? (cs : List Char) : Option (Document × List Char) :=
  let (negative, rest) :=
    match cs with
    | '-' :: rest => (true, rest)
    | rest => (false, rest)
  let whole := rest.takeWhile Decimal.isDigit
  let rest := rest.dropWhile Decimal.isDigit
  if whole.isEmpty || (whole.head? == some '0' && 1 < whole.length) then none
  else do
    let (fraction, rest) ←
      match rest with
      | '.' :: rest =>
        let digits := rest.takeWhile Decimal.isDigit
        if digits.isEmpty then none else some (some digits, rest.dropWhile Decimal.isDigit)
      | rest => some (none, rest)
    let (exponent, rest) ←
      match rest with
      | c :: after =>
        if c == 'e' || c == 'E' then
          (Decimal.exponent? after).map fun (n, rest) => (some n, rest)
        else some (none, rest)
      | [] => some (none, [])
    match fraction, exponent with
    | none, none => some (integerOrReal negative whole, rest)
    | _, _ =>
      let numeral := Decimal.Numeral.ofParts negative whole (fraction.getD []) (exponent.getD 0)
      some (.real numeral.toFloat, rest)

mutual

def value? : Nat → List Char → Option (Document × List Char)
  | 0, _ => none
  | fuel + 1, cs =>
    match cs with
    | 'n' :: 'u' :: 'l' :: 'l' :: rest => some (.null, rest)
    | 't' :: 'r' :: 'u' :: 'e' :: rest => some (.boolean true, rest)
    | 'f' :: 'a' :: 'l' :: 's' :: 'e' :: rest => some (.boolean false, rest)
    | '"' :: rest => (text? rest).map fun (s, rest) => (.text s, rest)
    | '[' :: rest =>
      match skipBlanks rest with
      | ']' :: rest => some (.list [], rest)
      | rest => items? fuel [] rest
    | '\x7b' :: rest =>
      match skipBlanks rest with
      | '\x7d' :: rest => some (.table [], rest)
      | rest => members? fuel [] rest
    | cs => number? cs

/-- The items of a list after those already read, which stand in reverse order. -/
def items? : Nat → List Document → List Char → Option (Document × List Char)
  | 0, _, _ => none
  | fuel + 1, read, cs =>
    match value? fuel (skipBlanks cs) with
    | none => none
    | some (v, rest) =>
      match skipBlanks rest with
      | ',' :: rest => items? fuel (v :: read) rest
      | ']' :: rest => some (.list (v :: read).reverse, rest)
      | _ => none

def members? : Nat → List (String × Document) → List Char → Option (Document × List Char)
  | 0, _, _ => none
  | fuel + 1, read, cs =>
    match skipBlanks cs with
    | '"' :: rest =>
      match text? rest with
      | none => none
      | some (name, rest) =>
        match skipBlanks rest with
        | ':' :: rest =>
          match value? fuel (skipBlanks rest) with
          | none => none
          | some (v, rest) =>
            match skipBlanks rest with
            | ',' :: rest => members? fuel (Keyed.put name v read) rest
            | '\x7d' :: rest => some (.table (Keyed.put name v read), rest)
            | _ => none
        | _ => none
    | _ => none

end

def read? (s : String) : Option Document :=
  let cs := s.toList
  match value? (cs.length + 1) (skipBlanks cs) with
  | some (d, rest) => if (skipBlanks rest).isEmpty then some d else none
  | none => none

end CallGuard.Json
