/-!
# Log records

Parts of the forge record what they do. A record has a level, the part that made it and a text.
-/

namespace Forge

/-- How much a record matters. -/
inductive Level where
  | debug
  | info
  | warning
  | error
  | critical
deriving DecidableEq, Repr

namespace Level

/-- All levels, from the least. -/
def all : List Level := [.debug, .info, .warning, .error, .critical]

/-- The name of a level. -/
def text : Level → String
  | .debug => "DEBUG"
  | .info => "INFO"
  | .warning => "WARNING"
  | .error => "ERROR"
  | .critical => "CRITICAL"

/-- The number of a level: levels with a smaller number matter less. -/
def number : Level → Nat
  | .debug => 10
  | .info => 20
  | .warning => 30
  | .error => 40
  | .critical => 50

/-- The level of a name. -/
def ofText? (s : String) : Option Level :=
  all.find? fun l => l.text == s

end Level

/-- The parts that make records. -/
inductive Part where
  | workflow
  | lifecycle
  | dependencies
  | database
  | locks
  | merge
  | tree
deriving DecidableEq, Repr

/-- The name under which a part makes its records. -/
def Part.text : Part → String
  | .workflow => "repoflow.service"
  | .lifecycle => "repoflow.machine"
  | .dependencies => "repoflow.dependencies"
  | .database => "repoflow.stores.db"
  | .locks => "repoflow.locks"
  | .merge => "repoflow.merge"
  | .tree => "repoflow.vcs"

/-- A log record. -/
structure LogRecord where
  level : Level
  part : Part
  text : String
deriving DecidableEq, Repr

/-- The record that the tables of a store are there. -/
def schemaReady (database : String) : LogRecord :=
  ⟨.debug, .database, "schema ready at " ++ database⟩

/-- The records of a level or above, each with its time. -/
def LogRecord.atLeast (level : Level) (records : List (Int × LogRecord)) :
    List (Int × LogRecord) :=
  records.filter fun r => decide (level.number ≤ r.2.level.number)

end Forge
