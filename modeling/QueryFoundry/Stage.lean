import QueryFoundry.Json

/-!
# Stages

Where a run of the pipeline is: it goes from the start through generating, building and executing to
the end, and to failure from any of the three.
-/

namespace QueryFoundry

/-- Where a run of the pipeline is. -/
inductive Stage where
  | start
  | generating
  | building
  | executing
  | done
  | failed
deriving DecidableEq, Repr

namespace Stage

/-- The name of a stage. -/
def name : Stage → String
  | start => "start"
  | generating => "generating"
  | building => "building"
  | executing => "executing"
  | done => "done"
  | failed => "failed"

instance : ToString Stage := ⟨name⟩

/-- All stages, in the order of a run. -/
def all : List Stage := [start, generating, building, executing, done, failed]

/-- The stage with a given name. -/
def ofName? (text : String) : Option Stage :=
  all.find? (·.name == text)

/-- A stage as a JSON value. -/
def toJson (stage : Stage) : Json := .text stage.name

end Stage

end QueryFoundry
