/-!
# Database faults

What a database client reports. A statement that the server rejected carries a state code of
letters and digits whose first two characters are its class.
-/

namespace CallGuard

structure SqlState where
  code : String
deriving DecidableEq

namespace SqlState

/-- State codes are kept in upper case. -/
def ofText (s : String) : SqlState := ⟨s.toUpper⟩

/-- The characters that take up the first two bytes, or nothing if no character ends there. -/
def category (s : SqlState) : String :=
  match s.code.toList with
  | a :: rest =>
    if a.utf8Size = 2 then String.ofList [a]
    else
      match rest with
      | b :: _ => if a.utf8Size + b.utf8Size = 2 then String.ofList [a, b] else ""
      | [] => ""
  | [] => ""

end SqlState

inductive DatabaseFault where
  | noRows
  | server (code : SqlState) (message : String)
  | connection
  | poolTimeout
deriving DecidableEq

def DatabaseFault.text : DatabaseFault → String
  | noRows => "no rows in result set"
  | server code message => "database error " ++ code.code ++ ": " ++ message
  | connection => "database connection failed"
  | poolTimeout => "timed out acquiring a database connection"

end CallGuard
