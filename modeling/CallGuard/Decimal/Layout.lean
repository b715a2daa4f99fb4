import CallGuard.Decimal.Shortest

/-!
# How decimals are laid out

A layout says which numbers are written with an exponent, whether a whole number keeps a zero
after the point, and how ties go. Messages, descriptions and reports each have one.
-/

namespace CallGuard.Decimal

structure Layout where
  /-- The exponents of the first digit that are written without an exponent, both ends
  included; every one if there is none. -/
  positional : Option (Int × Int)
  /-- Whether a whole number ends in `.0`. -/
  wholeMark : Bool
  /-- Which of two equally short and equally near decimals is written. -/
  tie : Tie

/-- Messages never use an exponent. -/
def Layout.message : Layout := ⟨none, false, .up⟩

/-- Descriptions use an exponent below a ten-thousandth and from ten quadrillion on. -/
def Layout.description : Layout := ⟨some (-4, 15), true, .up⟩

/-- Reports use an exponent below a hundred-thousandth and from ten quadrillion on. -/
def Layout.report : Layout := ⟨some (-5, 15), true, .even⟩

def Layout.isPositional (layout : Layout) (scale : Int) : Bool :=
  match layout.positional with
  | none => true
  | some (low, high) => low ≤ scale && scale ≤ high

def zeros (n : Nat) : String :=
  String.ofList (List.replicate n '0')

/-- Writes digits with the point after the one whose exponent is zero. -/
def Layout.positionalText (layout : Layout) (digits : List Char) (scale : Int) : String :=
  let whole := (scale + 1).toNat
  if scale < 0 then "0." ++ zeros (-scale - 1).toNat ++ String.ofList digits
  else if digits.length ≤ whole then
    String.ofList digits ++ zeros (whole - digits.length) ++ (if layout.wholeMark then ".0" else "")
  else String.ofList (digits.take whole) ++ "." ++ String.ofList (digits.drop whole)

/-- Writes the first digit before the point and the exponent after an `e`. -/
def exponentText (digits : List Char) (scale : Int) : String :=
  let mantissa :=
    match digits with
    | [] => "0"
    | [d] => String.ofList [d]
    | d :: rest => String.ofList (d :: '.' :: rest)
  mantissa ++ "e" ++ toString scale

def Layout.magnitudeText (layout : Layout) (d : Scaled) : String :=
  if d.digits = 0 then layout.positionalText ['0'] 0
  else
    let digits := Nat.toDigits 10 d.digits
    let scale := d.exponent + digits.length - 1
    if layout.isPositional scale then layout.positionalText digits scale
    else exponentText digits scale

/-- A zero keeps its sign; a number that is none has no sign. -/
def Layout.text (layout : Layout) (x : Float) : String :=
  match parts x with
  | .nan => "NaN"
  | .infinite negative => if negative then "-inf" else "inf"
  | .finite negative magnitude =>
    (if negative then "-" else "") ++ layout.magnitudeText (magnitude.shortest layout.tie)

end CallGuard.Decimal
