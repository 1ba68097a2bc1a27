/-!
# Log records

What the agent writes to its log, by level. Conditions are logged at the level of their severity.
-/

namespace NodeWatch

inductive Level where
  | info
  | warn
  | error
  deriving DecidableEq, Repr

def Level.name : Level → String
  | info => "INFO"
  | warn => "WARN"
  | error => "ERROR"

structure LogRecord where
  level : Level
  text : String
  deriving DecidableEq, Repr

namespace LogRecord

def warn (text : String) : LogRecord :=
  ⟨.warn, text⟩

def error (text : String) : LogRecord :=
  ⟨.error, text⟩

def line (r : LogRecord) : String :=
  s!"{r.level.name} {r.text}"

end LogRecord

/-- The value of a result whose failure must not stop a larger scan; a failure is logged. -/
def okOrLog {ε α : Type} (message : ε → String) : Except ε α → Option α × List LogRecord
  | .ok a => (some a, [])
  | .error e => (none, [.error (message e)])

end NodeWatch
