import CallGuard.Fault.InputOutput
import CallGuard.Fault.Database
import CallGuard.Fault.Cache
import CallGuard.Fault.Http
import CallGuard.Fault.Workflow

/-!
# Faults

A fault is an error together with its causes, a chain of links with the outermost first. A
link has a text and, where a client library made it, a meaning that classifiers can recognise.
-/

namespace CallGuard

/-- What a link of a fault is recognised as. -/
inductive Meaning where
  | unknown
  | cancelled
  | elapsed
  | io (kind : IoKind)
  | database (fault : DatabaseFault)
  | cache (fault : CacheFault)
  | http (fault : HttpFault)
  | request (fault : RequestFault)
  | transport (fault : TransportFault)
  | workflow (fault : WorkflowFault)
deriving DecidableEq

structure Link where
  meaning : Meaning
  text : String
deriving DecidableEq

structure Fault where
  head : Link
  causes : List Link
deriving DecidableEq

namespace Fault

def links (f : Fault) : List Link := f.head :: f.causes

def text (f : Fault) : String := f.head.text

def plain (message : String) : Fault := ⟨⟨.unknown, message⟩, []⟩

/-- An error that no classifier knows, caused by another. -/
def wrap (message : String) (cause : Fault) : Fault := ⟨⟨.unknown, message⟩, cause.links⟩

/-- The error wrapped `n` times, the innermost wrapper first. -/
def layered (cause : Fault) : Nat → Fault
  | 0 => cause
  | n + 1 => wrap ("layer " ++ toString n) (layered cause n)

/-- An error that no classifier knows and that takes text and causes from another. -/
def forwarding (inner : Fault) : Fault := ⟨⟨.unknown, inner.text⟩, inner.causes⟩

def cancelled : Fault := ⟨⟨.cancelled, "operation cancelled by caller"⟩, []⟩

def elapsed : Fault := ⟨⟨.elapsed, "deadline has elapsed"⟩, []⟩

def io (kind : IoKind) : Fault := ⟨⟨.io kind, kind.text⟩, []⟩

def ioMessage (kind : IoKind) (message : String) : Fault := ⟨⟨.io kind, message⟩, []⟩

/-- An input or output error around another error, whose text and causes it shows. -/
def ioAround (kind : IoKind) (inner : Fault) : Fault := ⟨⟨.io kind, inner.text⟩, inner.causes⟩

def system (code : Int) : Fault :=
  let e := SystemError.ofCode code
  ⟨⟨.io e.kind, e.text⟩, []⟩

def database (fault : DatabaseFault) (causes : List Link) : Fault :=
  ⟨⟨.database fault, fault.text⟩, causes⟩

def cache (fault : CacheFault) (causes : List Link) : Fault :=
  ⟨⟨.cache fault, fault.text⟩, causes⟩

def http (fault : HttpFault) (causes : List Link) : Fault :=
  ⟨⟨.http fault, fault.text⟩, causes⟩

def workflow (fault : WorkflowFault) : Fault := ⟨⟨.workflow fault, fault.text⟩, []⟩

end Fault

end CallGuard
