/-!
# Cache faults

What a client of a key-value cache reports. A reply of the server begins with a word that
tags it.
-/

namespace CallGuard

inductive CacheFault where
  | nil
  | reply (message : String)
  | connection
  | poolTimeout
deriving DecidableEq

def CacheFault.text : CacheFault → String
  | nil => "cache: nil"
  | reply message => message
  | connection => "cache connection failed"
  | poolTimeout => "timed out acquiring a cache connection"

end CallGuard
