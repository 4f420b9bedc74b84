import DagAccess.Text.Case

/-!
# Levels of log records

Records have levels. A logger or a handler with a level lets pass what is at least as urgent; the
lowest level stands for none set.
-/

namespace DagAccess.Logging

/-- How urgent a record is. -/
inductive Level
  | unset
  | debug
  | info
  | warning
  | error
  | critical
  deriving DecidableEq, Repr

namespace Level

/-- The number of a level. -/
def rank : Level → Nat
  | .unset => 0
  | .debug => 10
  | .info => 20
  | .warning => 30
  | .error => 40
  | .critical => 50

/-- The name of a level. -/
def name : Level → String
  | .unset => "NOTSET"
  | .debug => "DEBUG"
  | .info => "INFO"
  | .warning => "WARNING"
  | .error => "ERROR"
  | .critical => "CRITICAL"

/-- All names that levels are set by. -/
def names : List (String × Level) :=
  [("CRITICAL", .critical), ("FATAL", .critical), ("ERROR", .error), ("WARN", .warning),
   ("WARNING", .warning), ("INFO", .info), ("DEBUG", .debug), ("NOTSET", .unset)]

/-- The level with a name in capitals. -/
def ofName? (name : String) : Option Level :=
  names.lookup name

end Level

/-- Something that a part of the library has to say. -/
structure Notice where
  level : Level
  logger : String
  message : String
  deriving DecidableEq, Repr

end DagAccess.Logging
