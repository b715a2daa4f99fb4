/-!
# HTTP faults

What a client of an HTTP service reports: a status that is no success, a failure of the
transport, or a request that could not be built. Requests of the transport library have
faults of their own.
-/

namespace CallGuard

structure HttpStatus where
  code : Nat
  inRange : 100 ≤ code ∧ code ≤ 999
deriving DecidableEq

namespace HttpStatus

def ofCode? (code : Nat) : Option HttpStatus :=
  if h : 100 ≤ code ∧ code ≤ 999 then some ⟨code, h⟩ else none

def isClientError (s : HttpStatus) : Bool := 400 ≤ s.code && s.code < 500

def isServerError (s : HttpStatus) : Bool := 500 ≤ s.code && s.code < 600

/-- Whether another attempt may fare better: the server failed, asks for patience or gave up
waiting for the request. -/
def isWorthRetrying (s : HttpStatus) : Bool := s.isServerError || s.code == 429 || s.code == 408

def reasons : List (Nat × String) :=
  [(100, "Continue"), (101, "Switching Protocols"), (102, "Processing"), (103, "Early Hints"),
   (200, "OK"), (201, "Created"), (202, "Accepted"), (203, "Non Authoritative Information"),
   (204, "No Content"), (205, "Reset Content"), (206, "Partial Content"), (207, "Multi-Status"),
   (208, "Already Reported"), (226, "IM Used"), (300, "Multiple Choices"),
   (301, "Moved Permanently"), (302, "Found"), (303, "See Other"), (304, "Not Modified"),
   (305, "Use Proxy"), (307, "Temporary Redirect"), (308, "Permanent Redirect"),
   (400, "Bad Request"), (401, "Unauthorized"), (402, "Payment Required"), (403, "Forbidden"),
   (404, "Not Found"), (405, "Method Not Allowed"), (406, "Not Acceptable"),
   (407, "Proxy Authentication Required"), (408, "Request Timeout"), (409, "Conflict"),
   (410, "Gone"), (411, "Length Required"), (412, "Precondition Failed"),
   (413, "Payload Too Large"), (414, "URI Too Long"), (415, "Unsupported Media Type"),
   (416, "Range Not Satisfiable"), (417, "Expectation Failed"), (418, "I'm a teapot"),
   (421, "Misdirected Request"), (422, "Unprocessable Entity"), (423, "Locked"),
   (424, "Failed Dependency"), (425, "Too Early"), (426, "Upgrade Required"),
   (428, "Precondition Required"), (429, "Too Many Requests"),
   (431, "Request Header Fields Too Large"), (451, "Unavailable For Legal Reasons"),
   (500, "Internal Server Error"), (501, "Not Implemented"), (502, "Bad Gateway"),
   (503, "Service Unavailable"), (504, "Gateway Timeout"), (505, "HTTP Version Not Supported"),
   (506, "Variant Also Negotiates"), (507, "Insufficient Storage"), (508, "Loop Detected"),
   (510, "Not Extended"), (511, "Network Authentication Required")]

def text (s : HttpStatus) : String :=
  toString s.code ++ " " ++ ((reasons.lookup s.code).getD "<unknown status code>")

end HttpStatus

inductive HttpFault where
  | status (status : HttpStatus)
  | timeout
  | connect
  | invalidRequest (message : String)
  | request
deriving DecidableEq

namespace HttpFault

/-- The fault for an answer with a code; a code that is no status makes the request invalid. -/
def ofCode (code : Nat) : HttpFault :=
  match HttpStatus.ofCode? code with
  | some s => status s
  | none => invalidRequest ("invalid status code " ++ toString code)

def text : HttpFault → String
  | status s => "upstream returned " ++ s.text
  | timeout => "request timed out"
  | connect => "connection failed"
  | invalidRequest message => "invalid request: " ++ message
  | request => "request failed"

end HttpFault

inductive RequestKind where
  | status (status : HttpStatus)
  | builder
  | other
deriving DecidableEq

/-- A failed request of the transport library, with its answers to the questions whether it timed
out and whether it could not connect. -/
structure RequestFault where
  kind : RequestKind
  timedOut : Bool
  unconnected : Bool
deriving DecidableEq

/-- Faults of the transport that nobody but a request above them looks for. -/
inductive TransportFault where
  | timedOut
  | unconnected
deriving DecidableEq

end CallGuard
