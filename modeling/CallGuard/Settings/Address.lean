import CallGuard.Text.Scan

/-!
# Socket addresses

An address of four decimal octets or of eight hexadecimal groups in brackets, and a port after
a colon.
-/

namespace CallGuard

inductive SocketAddress where
  | v4 (octets : List Nat) (port : Nat)
  | v6 (groups : List Nat) (zone : Nat) (port : Nat)
deriving DecidableEq

namespace SocketAddress

def number? (radix : Nat) (cs : List Char) : Option (Nat × List Char) :=
  let digits := cs.takeWhile (Decimal.isDigitOf radix)
  if digits.isEmpty then none
  else some (Decimal.ofDigits radix digits, cs.dropWhile (Decimal.isDigitOf radix))

/-- A number below a bound; zeros in front do not matter. -/
def numberBelow? (bound : Nat) (cs : List Char) : Option (Nat × List Char) :=
  (number? 10 cs).filter fun read => read.1 < bound

/-- An octet has up to three digits and no superfluous zero in front. -/
def octet? (cs : List Char) : Option (Nat × List Char) :=
  let digits := cs.takeWhile Decimal.isDigit
  if 3 < digits.length || (digits.head? == some '0' && 1 < digits.length) then none
  else numberBelow? 256 cs

/-- A group has up to four digits. -/
def group? (cs : List Char) : Option (Nat × List Char) :=
  if 4 < (cs.takeWhile (Decimal.isDigitOf 16)).length then none else number? 16 cs

def octets? (cs : List Char) : Option (List Nat × List Char) := do
  let (a, rest) ← octet? cs
  let rest ← Text.expect? '.' rest
  let (b, rest) ← octet? rest
  let rest ← Text.expect? '.' rest
  let (c, rest) ← octet? rest
  let rest ← Text.expect? '.' rest
  let (d, rest) ← octet? rest
  some ([a, b, c, d], rest)

def groupsOfOctets : List Nat → List Nat
  | [a, b, c, d] => [a * 256 + b, c * 256 + d]
  | _ => []

/-- As many groups as there are, at most `room`, with a colon in front of all but the first.
Four octets may stand for the last two, which the flag then says. -/
def groups (first : Bool) : (room : Nat) → List Char → List Nat × Bool × List Char
  | 0, cs => ([], false, cs)
  | room + 1, cs =>
    let start := if first then some cs else Text.expect? ':' cs
    let embedded := if 0 < room then start.bind octets? else none
    match embedded with
    | some (octets, rest) => (groupsOfOctets octets, true, rest)
    | none =>
      match start.bind group? with
      | some (g, rest) =>
        let (more, hasOctets, rest) := groups false room rest
        (g :: more, hasOctets, rest)
      | none => ([], false, cs)

/-- Eight groups, or fewer around a double colon that stands for the missing zeros. -/
def sixteenBytes? (cs : List Char) : Option (List Nat × List Char) :=
  let (head, hasOctets, rest) := groups true 8 cs
  if head.length = 8 then some (head, rest)
  else if hasOctets then none
  else
    match rest with
    | ':' :: ':' :: rest =>
      let (tail, _, rest) := groups true (7 - head.length) rest
      some (head ++ List.replicate (8 - head.length - tail.length) 0 ++ tail, rest)
    | _ => none

def port? (cs : List Char) : Option (Nat × List Char) := do
  let rest ← Text.expect? ':' cs
  numberBelow? 65536 rest

/-- The number of a zone after a percent sign, zero if there is none. -/
def zone (cs : List Char) : Nat × List Char :=
  let read := do
    let rest ← Text.expect? '%' cs
    numberBelow? 4294967296 rest
  read.getD (0, cs)

def v4? (cs : List Char) : Option (SocketAddress × List Char) := do
  let (octets, rest) ← octets? cs
  let (port, rest) ← port? rest
  some (.v4 octets port, rest)

def v6? (cs : List Char) : Option (SocketAddress × List Char) := do
  let rest ← Text.expect? '[' cs
  let (groups, rest) ← sixteenBytes? rest
  let (zone, rest) := zone rest
  let rest ← Text.expect? ']' rest
  let (port, rest) ← port? rest
  some (.v6 groups zone port, rest)

def read? (s : String) : Option SocketAddress :=
  match (v4? s.toList).orElse fun _ => v6? s.toList with
  | some (address, []) => some address
  | _ => none

end SocketAddress

end CallGuard
