import CodeGraph.JsonValue

/-!
# Events

An event is reported with a level, a name and named values.
-/

namespace CodeGraph.Logging

/-- How serious an event is. -/
inductive Level
  | debug
  | info
  | warning
  | error
  | critical
  deriving DecidableEq, Repr, Inhabited

namespace Level

/-- The number of a level; a greater number is more serious. -/
def number : Level → Nat
  | debug => 10
  | info => 20
  | warning => 30
  | error => 40
  | critical => 50

def name : Level → String
  | debug => "debug"
  | info => "info"
  | warning => "warning"
  | error => "error"
  | critical => "critical"

end Level

/-- Something worth reporting. -/
structure Event where
  level : Level
  name : String
  fields : List (String × JsonValue) := []
  deriving Repr, Inhabited

end CodeGraph.Logging
