/-!
# Log records

The five severities of a log record, by name and by number, and the record itself.
-/

namespace Faceted

/-- How much a log record matters. -/
inductive Severity where
  | debug
  | info
  | warning
  | error
  | critical
deriving DecidableEq, Repr

namespace Severity

/-- The name of a severity. -/
def name : Severity → String
  | .debug => "DEBUG"
  | .info => "INFO"
  | .warning => "WARNING"
  | .error => "ERROR"
  | .critical => "CRITICAL"

/-- The number of a severity: the higher, the more it matters. -/
def number : Severity → Int
  | .debug => 10
  | .info => 20
  | .warning => 30
  | .error => 40
  | .critical => 50

/-- The severity that a setting names in small letters. -/
def ofSetting : String → Severity
  | "debug" => .debug
  | "warning" => .warning
  | "error" => .error
  | "critical" => .critical
  | _ => .info

/-- What a setting may name. -/
def settings : List String := ["critical", "debug", "error", "info", "warning"]

end Severity

/-- One record of the log. -/
structure LogRecord where
  severity : Severity
  message : String
deriving DecidableEq, Repr

end Faceted
