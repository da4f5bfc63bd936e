/-!
# Levels

How serious an entry of a log is.
-/

namespace CodeRetrieval.Log

/-- The levels of log entries, from the least to the most serious. -/
inductive Level where
  | debug
  | info
  | warning
  | error
  | critical
deriving DecidableEq, Repr

namespace Level

def all : List Level :=
  [debug, info, warning, error, critical]

def name : Level → String
  | debug => "debug"
  | info => "info"
  | warning => "warning"
  | error => "error"
  | critical => "critical"

def ofName? (s : String) : Option Level :=
  all.find? fun l => l.name == s

def severity : Level → Nat
  | debug => 10
  | info => 20
  | warning => 30
  | error => 40
  | critical => 50

end Level

end CodeRetrieval.Log
