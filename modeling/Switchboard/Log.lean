import Switchboard.Json.Basic

/-!
# Log records

A record has a level, a message and named fields.
-/

namespace Switchboard

inductive LogLevel where
  | info
  | warn
  | error
deriving DecidableEq, Repr

namespace LogLevel

def name : LogLevel → String
  | info => "INFO"
  | warn => "WARN"
  | error => "ERROR"

end LogLevel

structure LogRecord where
  level : LogLevel
  message : String
  fields : List (String × Json)
deriving DecidableEq

namespace LogRecord

def of (level : LogLevel) (message : String) (fields : List (String × Json)) : LogRecord :=
  ⟨level, message, fields⟩

/-- The record as an object, its level and message among its fields. -/
def json (r : LogRecord) : Json :=
  .mkObj (r.fields ++ [("level", Json.str r.level.name), ("message", Json.str r.message)])

end LogRecord

end Switchboard
