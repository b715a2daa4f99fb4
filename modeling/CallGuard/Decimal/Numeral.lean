import CallGuard.Decimal.Shortest

/-!
# Numerals

A numeral is what a reader finds written: a sign, digits and a power of ten. It denotes the
nearest float. The grammars of the single formats differ; the pieces they share stand here.
-/

namespace CallGuard.Decimal

/-- The number `± digits * 10 ^ exponent`. -/
structure Numeral where
  negative : Bool
  digits : Nat
  exponent : Int

/-- The float nearest to `digits * 10 ^ exponent`. From 10^310 on that is infinity, below
10^-330 it is zero. -/
def nearest (digits : Nat) (exponent : Int) : Float :=
  let top := exponent + digitCount digits
  if digits = 0 ∨ top < -330 then 0.0
  else if 310 < top then 1.0 / 0.0
  else Float.ofScientific digits (exponent < 0) exponent.natAbs

def Numeral.toFloat (n : Numeral) : Float :=
  let x := nearest n.digits n.exponent
  if n.negative then -x else x

def digitValue? (radix : Nat) (c : Char) : Option Nat :=
  let value :=
    if '0' ≤ c ∧ c ≤ '9' then some (c.toNat - '0'.toNat)
    else if 'a' ≤ c ∧ c ≤ 'z' then some (c.toNat - 'a'.toNat + 10)
    else if 'A' ≤ c ∧ c ≤ 'Z' then some (c.toNat - 'A'.toNat + 10)
    else none
  value.filter (· < radix)

def isDigitOf (radix : Nat) (c : Char) : Bool :=
  (digitValue? radix c).isSome

def isDigit (c : Char) : Bool := isDigitOf 10 c

/-- The value of a run of digits; other characters count as zero. -/
def ofDigits (radix : Nat) (digits : List Char) : Nat :=
  digits.foldl (fun n c => n * radix + (digitValue? radix c).getD 0) 0

def Numeral.ofParts (negative : Bool) (whole fraction : List Char) (exponent : Int) : Numeral :=
  ⟨negative, ofDigits 10 (whole ++ fraction), exponent - fraction.length⟩

/-- Splits off a leading sign, `true` for a minus. -/
def splitSign : List Char → Option Bool × List Char
  | '+' :: rest => (some false, rest)
  | '-' :: rest => (some true, rest)
  | rest => (none, rest)

/-- An exponent after its `e`: a sign if any and at least one digit. -/
def exponent? (cs : List Char) : Option (Int × List Char) :=
  let (sign, rest) := splitSign cs
  let digits := rest.takeWhile isDigit
  if digits.isEmpty then none
  else
    let n : Int := ofDigits 10 digits
    some (if sign == some true then -n else n, rest.dropWhile isDigit)

/-- Reads a number given as an argument: a sign if any, then a word for infinity or for no
number in any case, or digits with at most one point and at least one digit, and an exponent
if any. -/
def readArgument? (s : String) : Option Float :=
  let (sign, rest) := splitSign s.toList
  let negative := sign == some true
  let signed (x : Float) : Float := if negative then -x else x
  match (String.ofList rest).toLower with
  | "inf" | "infinity" => some (signed (1.0 / 0.0))
  | "nan" => some (signed (0.0 / 0.0))
  | _ =>
    let whole := rest.takeWhile isDigit
    let (fraction, rest) :=
      match rest.dropWhile isDigit with
      | '.' :: rest => (rest.takeWhile isDigit, rest.dropWhile isDigit)
      | rest => ([], rest)
    if whole.isEmpty && fraction.isEmpty then none
    else
      match rest with
      | [] => some (Numeral.ofParts negative whole fraction 0).toFloat
      | c :: rest =>
        if c == 'e' || c == 'E' then
          match exponent? rest with
          | some (n, []) => some (Numeral.ofParts negative whole fraction n).toFloat
          | _ => none
        else none

end CallGuard.Decimal
