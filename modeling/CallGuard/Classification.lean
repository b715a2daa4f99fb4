import CallGuard.Fault.Request
import CallGuard.Text.Blank

/-!
# Classification of faults

A failed call either was expected (the caller asked for something that is not there, malformed
or forbidden) or counts against the dependency. Each kind of backend has a vocabulary; rules
about cancellation, deadlines and input or output are shared. The first link that either of
them recognises decides, and a fault of which nothing is recognised counts.
-/

namespace CallGuard

inductive Verdict where
  | expected
  | counted
deriving DecidableEq

abbrev Classifier := Fault → Verdict

inductive Backend where
  | database
  | cache
  | httpClient
  | workflowClient
  | generic
deriving DecidableEq

def SqlState.verdict? (s : SqlState) : Option Verdict :=
  if s.category ∈ ["22", "23", "42", "28", "44", "21", "0A"] then some .expected
  else if s.category ∈ ["08", "40", "53", "57", "58", "XX"] then some .counted
  else none

def DatabaseFault.verdict? : DatabaseFault → Option Verdict
  | noRows => some .expected
  | server code _ => code.verdict?
  | connection | poolTimeout => some .counted

def malformedCommandPhrases : List String :=
  ["wrong number of arguments", "unknown command", "syntax error", "value is not an integer",
   "value is not a valid float"]

/-- The words with which a server refuses a command for the caller's own sake. -/
def refusalWords : List String := ["WRONGTYPE", "NOAUTH", "NOPERM", "WRONGPASS", "NOSCRIPT"]

/-- The words with which a server says that it cannot serve just now. -/
def outageWords : List String :=
  ["CLUSTERDOWN", "MASTERDOWN", "LOADING", "READONLY", "TRYAGAIN", "BUSY", "OOM"]

/-- A reply is judged by its first word in upper case; the generic word needs a closer look. -/
def replyVerdict? (reply : String) : Option Verdict :=
  let word := (Text.firstWord reply).toUpper
  if word ∈ refusalWords then some .expected
  else if word ∈ outageWords then some .counted
  else if word = "ERR" then
    if Text.mentions reply "max number of clients reached" then some .counted
    else if malformedCommandPhrases.any (Text.mentions reply.toLower) then some .expected
    else none
  else none

def CacheFault.verdict? : CacheFault → Option Verdict
  | nil => some .expected
  | reply message => replyVerdict? message
  | connection | poolTimeout => some .counted

def HttpStatus.verdict? (s : HttpStatus) : Option Verdict :=
  if s.isWorthRetrying then some .counted
  else if s.isClientError then some .expected
  else none

def HttpFault.verdict? : HttpFault → Option Verdict
  | status s => s.verdict?
  | timeout | connect => some .counted
  | invalidRequest _ => some .expected
  | request => none

/-- A status decides. A request without one counts if the transport failed. -/
def RequestFault.verdict? (f : RequestFault) : Option Verdict :=
  match f.kind with
  | .status s => s.verdict?
  | kind =>
    if f.timedOut || f.unconnected then some .counted
    else if kind = .builder then some .expected
    else none

def RpcCode.verdict : RpcCode → Verdict
  | cancelled | invalidArgument | notFound | alreadyExists | permissionDenied
  | failedPrecondition | unauthenticated | outOfRange => .expected
  | unavailable | deadlineExceeded | resourceExhausted | internal | dataLoss | aborted
  | unknown | unimplemented => .counted

def WorkflowFault.verdict : WorkflowFault → Verdict
  | alreadyStarted _ | namespaceNotFound _ | namespaceNotActive _ | queryFailed _ => .expected
  | rpc code _ => code.verdict

def IoKind.verdict? : IoKind → Option Verdict
  | permissionDenied | invalidInput => some .expected
  | connectionRefused | connectionReset | connectionAborted | notConnected | brokenPipe
  | timedOut | addressNotAvailable | unexpectedEof => some .counted
  | _ => none

def Meaning.sharedVerdict? : Meaning → Option Verdict
  | cancelled => some .expected
  | elapsed => some .counted
  | io kind => kind.verdict?
  | _ => none

namespace Backend

/-- What a backend knows about the faults of its own client. -/
def vocabulary : Backend → Meaning → Option Verdict
  | database, .database fault => fault.verdict?
  | cache, .cache fault => fault.verdict?
  | httpClient, .http fault => fault.verdict?
  | httpClient, .request fault => fault.verdict?
  | workflowClient, .workflow fault => some fault.verdict
  | _, _ => none

/-- What a backend says about one link: its own vocabulary comes before the shared rules. -/
def verdict? (b : Backend) (m : Meaning) : Option Verdict :=
  (b.vocabulary m).or m.sharedVerdict?

def classify (b : Backend) : Classifier := fun fault =>
  (fault.links.findSome? fun link => b.verdict? link.meaning).getD .counted

def name : Backend → String
  | database => "database"
  | cache => "cache"
  | httpClient => "http_client"
  | workflowClient => "workflow_client"
  | generic => "generic"

def all : List Backend := [database, cache, httpClient, workflowClient, generic]

def ofName? (s : String) : Option Backend :=
  all.find? fun b => b.name == s

end Backend

/-- Faults whose text contains a phrase are expected, all others count. -/
def Classifier.ofPhrase (phrase : String) : Classifier := fun fault =>
  if Text.mentions fault.text phrase then .expected else .counted

end CallGuard
