/-!
# Workflow faults

What a client of a workflow service reports. Remote calls fail with one of sixteen codes.
-/

namespace CallGuard

inductive RpcCode where
  | cancelled
  | unknown
  | invalidArgument
  | deadlineExceeded
  | notFound
  | alreadyExists
  | permissionDenied
  | resourceExhausted
  | failedPrecondition
  | aborted
  | outOfRange
  | unimplemented
  | internal
  | unavailable
  | dataLoss
  | unauthenticated
deriving DecidableEq

namespace RpcCode

def name : RpcCode → String
  | cancelled => "Cancelled"
  | unknown => "Unknown"
  | invalidArgument => "InvalidArgument"
  | deadlineExceeded => "DeadlineExceeded"
  | notFound => "NotFound"
  | alreadyExists => "AlreadyExists"
  | permissionDenied => "PermissionDenied"
  | resourceExhausted => "ResourceExhausted"
  | failedPrecondition => "FailedPrecondition"
  | aborted => "Aborted"
  | outOfRange => "OutOfRange"
  | unimplemented => "Unimplemented"
  | internal => "Internal"
  | unavailable => "Unavailable"
  | dataLoss => "DataLoss"
  | unauthenticated => "Unauthenticated"

def all : List RpcCode :=
  [cancelled, unknown, invalidArgument, deadlineExceeded, notFound, alreadyExists,
   permissionDenied, resourceExhausted, failedPrecondition, aborted, outOfRange, unimplemented,
   internal, unavailable, dataLoss, unauthenticated]

def ofName? (s : String) : Option RpcCode :=
  all.find? fun code => code.name == s

end RpcCode

inductive WorkflowFault where
  | alreadyStarted (workflow : String)
  | namespaceNotFound (name : String)
  | namespaceNotActive (name : String)
  | queryFailed (message : String)
  | rpc (code : RpcCode) (message : String)
deriving DecidableEq

def WorkflowFault.text : WorkflowFault → String
  | alreadyStarted workflow => "workflow execution already started: " ++ workflow
  | namespaceNotFound name => "namespace not found: " ++ name
  | namespaceNotActive name => "namespace " ++ name ++ " is not active"
  | queryFailed message => "query failed: " ++ message
  | rpc code message => "workflow rpc failed (" ++ code.name ++ "): " ++ message

end CallGuard
