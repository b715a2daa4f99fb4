import CallGuard.Document.Toml.Strings

/-!
# Numbers, truth values and moments of TOML

An integer fits a word of sixty-four bits with a sign. A float may not exceed the largest one
upwards. Dates have to exist.
-/

namespace CallGuard.Toml

/-- Digits of a radix, single underscores between them; the underscores are dropped. -/
def digits? (radix : Nat) (cs : List Char) : Option (List Char × List Char) :=
  let rec go : List Char → List Char × List Char
    | [] => ([], [])
    | '_' :: c :: rest =>
      if Decimal.isDigitOf radix c then
        let (read, rest) := go rest
        (c :: read, rest)
      else ([], '_' :: c :: rest)
    | c :: rest =>
      if Decimal.isDigitOf radix c then
        let (read, rest) := go rest
        (c :: read, rest)
      else ([], c :: rest)
  match cs with
  | c :: rest =>
    if Decimal.isDigitOf radix c then
      let (read, rest) := go rest
      some (c :: read, rest)
    else none
  | [] => none

/-- The digits of a decimal number: a zero in front stands alone. -/
def wholeDigits? : List Char → Option (List Char × List Char)
  | '0' :: rest => some (['0'], rest)
  | cs => digits? 10 cs

def ofInteger? (n : Int) : Option Document :=
  if -9223372036854775808 ≤ n ∧ n ≤ 9223372036854775807 then some (.integer n) else none

/-- An integer with the prefix of its radix, which takes no sign. -/
def radixInteger? (radix : Nat) (cs : List Char) : Option (Document × List Char) := do
  let (digits, rest) ← digits? radix cs
  let d ← ofInteger? (Decimal.ofDigits radix digits)
  some (d, rest)

def integer? (cs : List Char) : Option (Document × List Char) :=
  match cs with
  | '0' :: 'x' :: rest => radixInteger? 16 rest
  | '0' :: 'o' :: rest => radixInteger? 8 rest
  | '0' :: 'b' :: rest => radixInteger? 2 rest
  | cs => do
    let (sign, rest) := Decimal.splitSign cs
    let (digits, rest) ← wholeDigits? rest
    let n : Int := Decimal.ofDigits 10 digits
    let d ← ofInteger? (if sign == some true then -n else n)
    some (d, rest)

def exponent? : List Char → Option (Int × List Char)
  | c :: rest =>
    if c == 'e' || c == 'E' then do
      let (sign, rest) := Decimal.splitSign rest
      let (digits, rest) ← digits? 10 rest
      let n : Int := Decimal.ofDigits 10 digits
      some (if sign == some true then -n else n, rest)
    else none
  | [] => none

def infinity : Float := 1.0 / 0.0

def decimalFloat? (cs : List Char) : Option (Document × List Char) := do
  let (sign, rest) := Decimal.splitSign cs
  let (whole, rest) ← wholeDigits? rest
  let (fraction, rest, hasFraction) ←
    match rest with
    | '.' :: rest => (digits? 10 rest).map fun (digits, rest) => (digits, rest, true)
    | rest => some ([], rest, false)
  let (exponent, rest) ←
    match exponent? rest with
    | some (n, rest) => some (n, rest)
    | none => if hasFraction then some (0, rest) else none
  let x := (Decimal.Numeral.ofParts (sign == some true) whole fraction exponent).toFloat
  if x == infinity then none else some (.real x, rest)

def specialFloat? (cs : List Char) : Option (Document × List Char) :=
  let (sign, rest) := Decimal.splitSign cs
  let signed (x : Float) : Float := if sign == some true then -x else x
  match rest with
  | 'i' :: 'n' :: 'f' :: rest => some (.real (signed infinity), rest)
  | 'n' :: 'a' :: 'n' :: rest => some (.real (signed (0.0 / 0.0)), rest)
  | _ => none

/-- A number of exactly `n` digits that lies between two bounds. -/
def field? (n low high : Nat) (cs : List Char) : Option (Nat × List Char) :=
  (Text.fixedNumber? 10 n cs).filter fun read => low ≤ read.1 && read.1 ≤ high

def daysInMonth (year month : Nat) : Nat :=
  if month = 2 then
    if year % 4 = 0 ∧ (year % 100 ≠ 0 ∨ year % 400 = 0) then 29 else 28
  else if month = 4 ∨ month = 6 ∨ month = 9 ∨ month = 11 then 30
  else 31

def skipDate? (cs : List Char) : Option (List Char) := do
  let (year, rest) ← field? 4 0 9999 cs
  let rest ← Text.expect? '-' rest
  let (month, rest) ← field? 2 1 12 rest
  let rest ← Text.expect? '-' rest
  let (_, rest) ← field? 2 1 (daysInMonth year month) rest
  some rest

def skipTime? (cs : List Char) : Option (List Char) := do
  let (_, rest) ← field? 2 0 23 cs
  let rest ← Text.expect? ':' rest
  let (_, rest) ← field? 2 0 59 rest
  let rest ← Text.expect? ':' rest
  let (_, rest) ← field? 2 0 60 rest
  match rest with
  | '.' :: after =>
    if (after.takeWhile Decimal.isDigit).isEmpty then some rest
    else some (after.dropWhile Decimal.isDigit)
  | _ => some rest

/-- The rest after a distance from universal time, if there is one. -/
def skipOffset (cs : List Char) : List Char :=
  match cs with
  | 'Z' :: rest | 'z' :: rest => rest
  | c :: rest =>
    if c == '+' || c == '-' then
      let after := do
        let (_, rest) ← field? 2 0 23 rest
        let rest ← Text.expect? ':' rest
        let (_, rest) ← field? 2 0 59 rest
        some rest
      after.getD cs
    else cs
  | [] => []

def moment? (cs : List Char) : Option (Document × List Char) :=
  match skipDate? cs with
  | some rest =>
    let after :=
      match rest with
      | c :: time => if c == 'T' || c == 't' || c == ' ' then skipTime? time else none
      | [] => none
    match after with
    | some after => some (.moment, skipOffset after)
    | none => some (.moment, rest)
  | none => (skipTime? cs).map fun rest => (.moment, rest)

def firstOf (cs : List Char) (readers : List (List Char → Option (Document × List Char))) :
    Option (Document × List Char) :=
  readers.findSome? fun reader => reader cs

/-- A value without parts that is no string. -/
def scalar? (cs : List Char) : Option (Document × List Char) :=
  match cs with
  | 't' :: 'r' :: 'u' :: 'e' :: rest => some (.boolean true, rest)
  | 'f' :: 'a' :: 'l' :: 's' :: 'e' :: rest => some (.boolean false, rest)
  | cs => firstOf cs [moment?, decimalFloat?, specialFloat?, integer?]

end CallGuard.Toml
