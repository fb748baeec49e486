/-!
# Log records

What the library does can be followed in a log.

* `LogLevel` : how detailed a record is; `LogLevel.shows` says which records a log shows.
* `LogRecord` : a record, with its fields in the order of their keys.
-/

namespace TypeAncestry

/-- How detailed a record is. -/
inductive LogLevel where
  | debug
  | trace
  deriving DecidableEq, Repr

namespace LogLevel

/-- The name of a level. -/
def name : LogLevel → String
  | debug => "debug"
  | trace => "trace"

/-- A log at the first level shows records of the second: tracing shows everything. -/
def shows : LogLevel → LogLevel → Bool
  | trace, _ => true
  | debug, l => l == debug

end LogLevel

/-- A record of a log. -/
structure LogRecord where
  /-- Its level. -/
  level : LogLevel
  /-- The part of the library that made it. -/
  part : String
  /-- What happened. -/
  message : String
  /-- The details, in the order of their keys. -/
  fields : List (String × String)
  deriving DecidableEq, Repr

/-- The text of a truth value in a record. -/
def LogRecord.flag (b : Bool) : String := if b then "true" else "false"

end TypeAncestry
