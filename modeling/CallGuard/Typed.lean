import CallGuard.Breaker.Execution
import CallGuard.Decimal.Layout

/-!
# Typed calls

A caller that shares one breaker among operations of several types packs each value with its
type on the way in and unpacks it on the way out. Whatever goes wrong, it gets its own fallback
back together with the reason.
-/

namespace CallGuard

inductive ValueType where
  | word64
  | int32
  | int64
  | flag
  | float64
  | unit
  | text
deriving DecidableEq

namespace ValueType

abbrev Carrier : ValueType → Type
  | word64 => UInt64
  | int32 => Int32
  | int64 => Int64
  | flag => Bool
  | float64 => Float
  | unit => Unit
  | text => String

def name : ValueType → String
  | word64 => "u64"
  | int32 => "i32"
  | int64 => "i64"
  | flag => "bool"
  | float64 => "f64"
  | unit => "()"
  | text => "alloc::string::String"

def describe : (t : ValueType) → t.Carrier → String
  | word64, v => toString v.toNat
  | int32, v => toString v.toInt
  | int64, v => toString v.toInt
  | flag, v => if v then "true" else "false"
  | float64, v => Decimal.Layout.description.text v
  | unit, _ => "()"
  | text, v => Text.quoted v

end ValueType

/-- The codes of a family of types, by which they can be told apart when the program runs. -/
class TypeCode (τ : Type) where
  Carrier : τ → Type
  name : τ → String

instance : TypeCode ValueType := ⟨ValueType.Carrier, ValueType.name⟩

structure Packed (τ : Type) [TypeCode τ] where
  type : τ
  value : TypeCode.Carrier type

section Packing

variable {τ : Type} [TypeCode τ] [DecidableEq τ]

/-- The value, if it has the type asked for. -/
def Packed.unpack? (p : Packed τ) (t : τ) : Option (TypeCode.Carrier t) :=
  if h : p.type = t then some (h ▸ p.value) else none

@[simp] theorem Packed.unpack?_mk (t : τ) (v : TypeCode.Carrier t) :
    (Packed.mk t v).unpack? t = some v := by
  simp [unpack?]

end Packing

inductive TypedError where
  | opened (breaker : String)
  | tooManyProbes (breaker : String)
  | operation (fault : Fault)
  | mismatch (expected : String)
deriving DecidableEq

namespace TypedError

def ofCallError : CallError → TypedError
  | .opened breaker => opened breaker
  | .tooManyProbes breaker => tooManyProbes breaker
  | .operation fault => operation fault

def text : TypedError → String
  | opened breaker => CallError.text (.opened breaker)
  | tooManyProbes breaker => CallError.text (.tooManyProbes breaker)
  | operation fault => fault.text
  | mismatch expected => "breaker returned a value that is not a " ++ expected

def isMismatch : TypedError → Bool
  | mismatch _ => true
  | _ => false

/-- As an error of its own it is unknown to classifiers and has no cause. -/
def toFault (e : TypedError) : Fault := Fault.plain e.text

end TypedError

/-- The caller's own value and why it is needed. -/
structure Fallback (α : Type) where
  value : α
  error : TypedError

namespace Typed

variable {τ : Type} [TypeCode τ] [DecidableEq τ] {ε : Type} [ErrorType ε]

/-- What a typed call makes of the packed result that a breaker called `breaker` hands back. -/
def resolve (breaker : String) (t : τ) (fallback : TypeCode.Carrier t) :
    Except CallError (Packed τ) →
      Except (Fallback (TypeCode.Carrier t)) (TypeCode.Carrier t) × List Notice
  | .error e => (.error ⟨fallback, .ofCallError e⟩, [])
  | .ok p =>
    match p.unpack? t with
    | some v => (.ok v, [])
    | none =>
      (.error ⟨fallback, .mismatch (TypeCode.name t)⟩, [.wrongType breaker (TypeCode.name t)])

/-- Runs work on values of one type through a breaker for packed values, among other users. -/
def callAmong (others : Bystanders) (b : Breaker) (now : Instant) (t : τ)
    (work : Work ε (TypeCode.Carrier t)) (fallback : TypeCode.Carrier t) :
    Called (Fallback (TypeCode.Carrier t)) (TypeCode.Carrier t) :=
  let called := b.callAmong others now (work.boxed.map (Packed.mk t))
  let (result, more) := resolve b.name t fallback called.result
  ⟨result, called.invoked, called.finished, called.breaker, called.notices ++ more⟩

def call (b : Breaker) (now : Instant) (t : τ) (work : Work ε (TypeCode.Carrier t))
    (fallback : TypeCode.Carrier t) : Called (Fallback (TypeCode.Carrier t)) (TypeCode.Carrier t) :=
  callAmong Bystanders.none b now t work fallback

end Typed

end CallGuard
