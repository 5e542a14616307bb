/-!
# Log records

What a trigger tells its operator. Operations that log return their records in order.
-/

namespace MotionWatch

/-- How urgent a record is. -/
inductive Level where
  | trace
  | debug
  | info
  | warn
  | error
  deriving DecidableEq, Repr

/-- The name of a level. -/
def Level.name : Level → String
  | trace => "TRACE"
  | debug => "DEBUG"
  | info => "INFO"
  | warn => "WARN"
  | error => "ERROR"

/-- A line of the log. -/
structure LogRecord where
  level : Level
  text : String
  deriving DecidableEq, Repr

/-- The line as it is shown. -/
def LogRecord.render (r : LogRecord) : String := s!"{r.level.name} {r.text}"

/-- Causes in one line, the outermost first. -/
def joinCauses (causes : List String) : String := ": ".intercalate causes

end MotionWatch
