import CallGuard.Fault.Basic

/-!
# Requests of the transport library

A failed request answers whether it timed out and whether it could not connect, and it takes
both answers from the errors below it. What it looks for there is up to the library.
-/

namespace CallGuard

structure RequestLibrary where
  isTimeout : RequestKind → List Link → Bool
  isConnect : RequestKind → List Link → Bool

namespace RequestLibrary

def link (lib : RequestLibrary) (kind : RequestKind) (below : List Link) : Link :=
  ⟨.request ⟨kind, lib.isTimeout kind below, lib.isConnect kind below⟩, "request error"⟩

def fault (lib : RequestLibrary) (kind : RequestKind) (causes : List Link) : Fault :=
  ⟨lib.link kind causes, causes⟩

/-- Requests that look at everything below them: one timed out or could not connect if anything
there did. -/
def walking : RequestLibrary where
  isTimeout _ below :=
    below.any fun l => l.meaning == .io .timedOut || l.meaning == .transport .timedOut
  isConnect _ below := below.any fun l => l.meaning == .transport .unconnected

end RequestLibrary

namespace Fault

def request (kind : RequestKind) (causes : List Link) : Fault :=
  RequestLibrary.walking.fault kind causes

def unbuildableRequest : Fault := request .builder [⟨.unknown, "builder error"⟩]

def refusedRequest : Fault :=
  request .other [⟨.transport .unconnected, "client error (Connect)"⟩,
    ⟨.unknown, "tcp connect error"⟩, (io .connectionRefused).head]

def timedOutRequest : Fault := request .other [⟨.transport .timedOut, "operation timed out"⟩]

def statusRequest (status : HttpStatus) : Fault := request (.status status) []

/-- A request whose answer broke off. -/
def brokenRequest (cause : Fault) : Fault := request .other cause.links

end Fault

end CallGuard
