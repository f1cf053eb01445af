import QueryFoundry.ArtifactName
import QueryFoundry.Duration
import QueryFoundry.Path
import QueryFoundry.Stage

/-!
# Reports

What a successful run of the pipeline tells about itself: the artifact, its generated source and the
time that each stage took.
-/

namespace QueryFoundry

/-- The time that a completed stage took. -/
structure StageTiming where
  stage : Stage
  elapsed : Duration
deriving DecidableEq, Repr

/-- The whole milliseconds of a stage, as a number of 64 bits. -/
def StageTiming.elapsedMilliseconds (timing : StageTiming) : UInt64 :=
  UInt64.ofNat timing.elapsed.wholeMilliseconds

/-- A timing as a JSON value. -/
def StageTiming.toJson (timing : StageTiming) : Json :=
  .object [("stage", timing.stage.toJson), ("elapsed_ms", .whole timing.elapsedMilliseconds.toNat)]

/-- The summary of a successful run. -/
structure Report where
  name : ArtifactName
  sourcePath : Path
  stages : List StageTiming
deriving DecidableEq, Repr

namespace Report

/-- The time of all stages together, if it fits. -/
def total? (report : Report) : Option Duration :=
  Duration.sum? (report.stages.map StageTiming.elapsed)

/-- A report as a JSON value. -/
def toJson (report : Report) : Json :=
  .object [("name", .text report.name.text), ("source_path", .text report.sourcePath),
    ("stages", .array (report.stages.map StageTiming.toJson))]

/-- The text of a report. -/
def render (report : Report) : String :=
  report.toJson.pretty

end Report

end QueryFoundry
