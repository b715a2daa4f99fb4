/-!
# The shortest decimal of a binary number

A finite float is a natural number times a power of two. Of the decimals that read back as
that float the one with the fewest digits is taken, of two such the nearer, and of two equally
near the one that a rule for ties names. All comparisons are exact.
-/

namespace CallGuard.Decimal

/-- Which of two decimals that are equally near is taken. -/
inductive Tie where
  /-- The larger one. -/
  | up
  /-- The one whose last digit is even. -/
  | even
deriving DecidableEq

/-- The number `mantissa * 2 ^ exponent`. -/
structure Binary where
  mantissa : Nat
  exponent : Int

/-- What the sixty-four bits of a float stand for. -/
inductive Parts where
  | nan
  | infinite (negative : Bool)
  | finite (negative : Bool) (magnitude : Binary)

def parts (x : Float) : Parts :=
  let bits : Nat := x.toBits.toNat
  let negative := bits / Nat.pow 2 63 == 1
  let field : Nat := bits / Nat.pow 2 52 % Nat.pow 2 11
  let fraction : Nat := bits % Nat.pow 2 52
  if field = 2047 then
    if fraction = 0 then .infinite negative else .nan
  else if field = 0 then .finite negative ⟨fraction, -1074⟩
  else .finite negative ⟨fraction + Nat.pow 2 52, (field : Int) - 1075⟩

/-- The number `digits * 10 ^ exponent`. -/
structure Scaled where
  digits : Nat
  exponent : Int
deriving DecidableEq

def digitCount (n : Nat) : Nat :=
  if n < 10 then 1 else digitCount (n / 10) + 1

/-- Compares `a * 10 ^ p` with `b * 2 ^ q`. -/
def compareScaled (a : Nat) (p : Int) (b : Nat) (q : Int) : Ordering :=
  compare (a * Nat.pow 10 p.toNat * Nat.pow 2 (-q).toNat)
    (b * Nat.pow 2 q.toNat * Nat.pow 10 (-p).toNat)

/-- The reals that round to a value: both ends in quarters of its last place, and whether
the ends belong to it. -/
structure Interval where
  low : Nat
  high : Nat
  exponent : Int
  closed : Bool

/-- Below a power of two the neighbours are twice as near as above it. -/
def interval (x : Binary) : Interval where
  low :=
    if x.mantissa = Nat.pow 2 52 ∧ -1074 < x.exponent then 4 * x.mantissa - 1
    else 4 * x.mantissa - 2
  high := 4 * x.mantissa + 2
  exponent := x.exponent - 2
  closed := x.mantissa % 2 == 0

def Interval.contains (i : Interval) (d : Scaled) : Bool :=
  let below := compareScaled d.digits d.exponent i.low i.exponent
  let above := compareScaled d.digits d.exponent i.high i.exponent
  (below == .gt || (i.closed && below == .eq)) && (above == .lt || (i.closed && above == .eq))

/-- How many times a fraction has to be multiplied by ten to reach one. -/
def leadingZeros (numerator denominator : Nat) : Nat → Nat
  | 0 => 0
  | fuel + 1 =>
    if denominator ≤ numerator then 0
    else leadingZeros (numerator * 10) denominator fuel + 1

/-- The exponent of the first significant digit of a positive number. No float is below
`10 ^ -324`. -/
def Binary.scale (x : Binary) : Int :=
  let numerator := x.mantissa * Nat.pow 2 x.exponent.toNat
  let denominator := Nat.pow 2 (-x.exponent).toNat
  if denominator ≤ numerator then (digitCount (numerator / denominator) : Int) - 1
  else -(leadingZeros numerator denominator 324 : Int)

/-- The largest multiple of `10 ^ p` that is not above the number, counted in that unit. -/
def Binary.floorAt (x : Binary) (p : Int) : Nat :=
  (x.mantissa * Nat.pow 2 x.exponent.toNat * Nat.pow 10 (-p).toNat) /
    (Nat.pow 2 (-x.exponent).toNat * Nat.pow 10 p.toNat)

/-- Whether of the two neighbours on a grid, the lower one with `digits`, the lower one is
taken. The ordering is that of their middle and the number. -/
def Tie.takesLower (tie : Tie) (digits : Nat) : Ordering → Bool
  | .gt => true
  | .lt => false
  | .eq => tie == .even && digits % 2 == 0

/-- The decimal on the grid of `10 ^ p` that reads back as the number, if there is one. -/
def Binary.onGrid (x : Binary) (tie : Tie) (p : Int) : Option Scaled :=
  let down : Scaled := ⟨x.floorAt p, p⟩
  let up : Scaled := ⟨down.digits + 1, p⟩
  let zone := interval x
  match zone.contains down, zone.contains up with
  | true, true =>
    let middle := compareScaled (down.digits + up.digits) p (2 * x.mantissa) x.exponent
    some (if tie.takesLower down.digits middle then down else up)
  | true, false => some down
  | false, true => some up
  | false, false => none

/-- A decimal without the zeros at its end. -/
def stripZeros (digits : Nat) (exponent : Int) : Scaled :=
  if digits ≠ 0 ∧ digits % 10 = 0 then stripZeros (digits / 10) (exponent + 1)
  else ⟨digits, exponent⟩
termination_by digits

/-- The first of ever finer grids, `count` of them, that has a decimal for the number. -/
def Binary.search (x : Binary) (tie : Tie) (p : Int) : Nat → Scaled
  | 0 => ⟨x.floorAt p, p⟩
  | count + 1 =>
    match x.onGrid tie p with
    | some d => d
    | none => x.search tie (p - 1) count

/-- Seventeen digits tell any two floats apart. -/
def Binary.shortest (x : Binary) (tie : Tie) : Scaled :=
  if x.mantissa = 0 then ⟨0, 0⟩
  else
    let d := x.search tie x.scale 17
    stripZeros d.digits d.exponent

end CallGuard.Decimal
