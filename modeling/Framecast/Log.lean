/-!
# Log records

What a run reports about itself: a level, a message, and named values.
-/

namespace Framecast

/-- The importance of a log record, least first. -/
inductive LogLevel where
  | trace
  | debug
  | info
  | warn
deriving Repr, DecidableEq

inductive LogValue where
  | number (n : Nat)
  | flag (b : Bool)
  | text (s : String)
deriving Repr, DecidableEq

/-- One log record, with its named values in the order they were given. -/
structure LogRecord where
  level : LogLevel
  message : String
  fields : List (String × LogValue)
deriving Repr, DecidableEq

end Framecast
