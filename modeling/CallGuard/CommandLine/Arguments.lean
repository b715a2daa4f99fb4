import CallGuard.Decimal.Numeral
import CallGuard.Settings.Address
import CallGuard.Time.Span

/-!
# Arguments

Options have a long name and a value, which is the next argument or stands after an equals sign.
No option is given twice. The options in front of the command are its own; after two dashes
nothing is an option.
-/

namespace CallGuard.CommandLine

/-- Arguments sorted into options with their values and the rest. -/
structure Sorted where
  options : List (String × String)
  positionals : List String

def splitEquals (arg : String) : String × Option String :=
  let cs := arg.toList
  match cs.dropWhile (· != '=') with
  | _ :: value => (String.ofList (cs.takeWhile (· != '=')), some (String.ofList value))
  | [] => (arg, none)

/-- An argument that begins with a dash is no value, a lone dash apart. -/
def looksLikeOption (arg : String) : Bool := arg.startsWith "-" && arg != "-"

/-- Adds an option that is known and has not been given yet. -/
def addOption? (known : List String) (sorted : Sorted) (name value : String) : Option Sorted :=
  if known.contains name && (sorted.options.lookup name).isNone then
    some { sorted with options := sorted.options ++ [(name, value)] }
  else none

/-- Sorts arguments up to the first that is no option if `leading` holds, else all of them. What
is left over stands behind the result. -/
def sort? (known : List String) (leading : Bool) :
    Sorted → List String → Option (Sorted × List String)
  | sorted, [] => some (sorted, [])
  | sorted, arg :: rest =>
    if arg = "--" then
      if leading then none else some ({ sorted with positionals := sorted.positionals ++ rest }, [])
    else if looksLikeOption arg then
      match splitEquals arg with
      | (name, some value) => do
        let sorted ← addOption? known sorted name value
        sort? known leading sorted rest
      | (name, none) =>
        match rest with
        | [] => none
        | value :: rest => do
          let sorted ← if looksLikeOption value then none else addOption? known sorted name value
          sort? known leading sorted rest
    else if leading then some (sorted, arg :: rest)
    else sort? known leading { sorted with positionals := sorted.positionals ++ [arg] } rest

def empty : Sorted := ⟨[], []⟩

def integer? (s : String) : Option Int :=
  let (sign, digits) := Decimal.splitSign s.toList
  if digits.isEmpty || !digits.all Decimal.isDigit then none
  else
    let n : Int := Decimal.ofDigits 10 digits
    some (if sign == some true then -n else n)

/-- A word of thirty-two bits. A zero may have any sign. -/
def word32? (s : String) : Option UInt32 :=
  (integer? s).bind fun n =>
    if 0 ≤ n ∧ n < 4294967296 then some (UInt32.ofNat n.toNat) else none

/-- A word of sixty-four bits, without a minus. -/
def word64? (s : String) : Option UInt64 :=
  if s.startsWith "-" then none
  else
    (integer? s).bind fun n =>
      if 0 ≤ n ∧ n < 18446744073709551616 then some (UInt64.ofNat n.toNat) else none

inductive Command where
  | check (path : String)
  | backoff (maxAttempts : UInt32) (initialMs : UInt64) (coefficient : Float) (maxMs : UInt64)
  | simulate (path breaker pattern : String)

structure Invocation where
  logLevel : Option String
  metricsAddress : Option SocketAddress
  command : Command

/-- The value of an option, or a standard value; nothing if a given value does not fit. -/
def optionOr {α : Type} (sorted : Sorted) (name : String) (read? : String → Option α)
    (standard : α) : Option α :=
  match sorted.options.lookup name with
  | none => some standard
  | some s => read? s

def path? (sorted : Sorted) : Option String :=
  match sorted.positionals with
  | [path] => if path.isEmpty then none else some path
  | _ => none

def command? : List String → Option Command
  | "check" :: args => do
    let (sorted, _) ← sort? [] false empty args
    let path ← path? sorted
    some (.check path)
  | "backoff" :: args => do
    let known := ["--max-attempts", "--initial-ms", "--coefficient", "--max-ms"]
    let (sorted, _) ← sort? known false empty args
    let attempts ← optionOr sorted "--max-attempts" word32? 5
    let initial ← optionOr sorted "--initial-ms" word64? 100
    let coefficient ← optionOr sorted "--coefficient" Decimal.readArgument? 2.0
    let cap ← optionOr sorted "--max-ms" word64? 2000
    if sorted.positionals.isEmpty then some (.backoff attempts initial coefficient cap) else none
  | "simulate" :: args => do
    let (sorted, _) ← sort? ["--breaker", "--pattern"] false empty args
    let path ← path? sorted
    let breaker ← sorted.options.lookup "--breaker"
    let pattern ← sorted.options.lookup "--pattern"
    some (.simulate path breaker pattern)
  | _ => none

def invocation? (args : List String) : Option Invocation := do
  let (sorted, rest) ← sort? ["--log-level", "--metrics-address"] true empty args
  let address ←
    match sorted.options.lookup "--metrics-address" with
    | none => some none
    | some s => (SocketAddress.read? s).map some
  let command ← command? rest
  some ⟨sorted.options.lookup "--log-level", address, command⟩

end CallGuard.CommandLine
