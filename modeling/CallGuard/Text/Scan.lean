import CallGuard.Decimal.Numeral

/-!
# Scanning text

Readers take the characters left and give what they read together with the rest, or nothing if
the text does not fit. These are the pieces that the readers of all formats share.
-/

namespace CallGuard.Text

/-- The rest after a certain character. -/
def expect? (c : Char) : List Char → Option (List Char)
  | d :: rest => if c = d then some rest else none
  | [] => none

def fixedNumber? (radix n : Nat) (cs : List Char) : Option (Nat × List Char) :=
  let digits := cs.take n
  if digits.length = n ∧ digits.all (Decimal.isDigitOf radix) then
    some (Decimal.ofDigits radix digits, cs.drop n)
  else none

/-- The character with a code point. Surrogates have none. -/
def char? (code : Nat) : Option Char :=
  if code.isValidChar then some (Char.ofNat code) else none

end CallGuard.Text
