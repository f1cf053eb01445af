import Mathlib.Data.List.Forall2
import QueryFoundry.Proofs.JsonReading
import QueryFoundry.Report

/-!
# Reading reports back

The text of a report tells the name of the artifact, the path of its source and, for each stage in
turn, its name and its whole milliseconds as far as they fit into 64 bits. All of that is read back
from the text, and nothing else is in it: two reports have one text just when they tell the same.
-/

namespace QueryFoundry

/-- What the text of a report tells: each stage comes with its milliseconds. -/
structure Summary where
  name : String
  sourcePath : Path
  stages : List (Stage × Nat)
deriving DecidableEq, Repr

namespace Summary

/-- A stage and its milliseconds, from the value that tells them. -/
def stageOf? (value : Json) : Option (Stage × Nat) := do
  let name ← (← value.get? "stage").asText?
  let milliseconds ← (← value.get? "elapsed_ms").asWhole?
  return (← Stage.ofName? name, milliseconds.toNat)

/-- The summary that a value tells. -/
def ofJson? (value : Json) : Option Summary := do
  let name ← (← value.get? "name").asText?
  let sourcePath ← (← value.get? "source_path").asText?
  let stages ← (← value.get? "stages").asArray?
  return ⟨name, sourcePath, ← stages.mapM stageOf?⟩

/-- The summary that a text tells. -/
def read? (text : String) : Option Summary := do
  ofJson? (← Json.parse? text)

end Summary

/-- What a report tells about itself. -/
def Report.summary (report : Report) : Summary where
  name := report.name.text
  sourcePath := report.sourcePath
  stages := report.stages.map fun timing =>
    (timing.stage, timing.elapsed.wholeMilliseconds % 2 ^ 64)

namespace Stage

theorem ofName?_name (stage : Stage) : ofName? stage.name = some stage := by
  cases stage <;> decide

end Stage

namespace StageTiming

/-- Two timings are of one stage and tell the same milliseconds where these fit into 64 bits. -/
def Agrees (first second : StageTiming) : Prop :=
  first.stage = second.stage ∧
    (first.elapsed.wholeMilliseconds < 2 ^ 64 → second.elapsed.wholeMilliseconds < 2 ^ 64 →
      first.elapsed.wholeMilliseconds = second.elapsed.wholeMilliseconds)

theorem toNat_elapsedMilliseconds (timing : StageTiming) :
    timing.elapsedMilliseconds.toNat = timing.elapsed.wholeMilliseconds % 2 ^ 64 :=
  UInt64.toNat_ofNat'

theorem isReadable_toJson (timing : StageTiming) : timing.toJson.IsReadable := by
  have small := timing.elapsedMilliseconds.toNat_lt
  refine .object (by simp) ?_
  simp only [List.forall_mem_cons]
  exact ⟨.text _, .whole (by omega) (by omega), List.forall_mem_nil _⟩

theorem stageOf?_toJson (timing : StageTiming) : Summary.stageOf? timing.toJson =
    some (timing.stage, timing.elapsed.wholeMilliseconds % 2 ^ 64) := by
  rw [← toNat_elapsedMilliseconds]
  simp [Summary.stageOf?, toJson, Json.get?, List.lookup_cons, Stage.toJson, Json.asText?,
    Json.asWhole?, Stage.ofName?_name]

end StageTiming

namespace Report

theorem isReadable_toJson (report : Report) : report.toJson.IsReadable := by
  refine .object (by simp) ?_
  simp only [List.forall_mem_cons]
  refine ⟨.text _, .text _, .array ?_, List.forall_mem_nil _⟩
  rw [List.forall_mem_map]
  exact fun timing _ => timing.isReadable_toJson

theorem ofJson?_toJson (report : Report) :
    Summary.ofJson? report.toJson = some report.summary := by
  have stages : (report.stages.map StageTiming.toJson).mapM Summary.stageOf? =
      some report.summary.stages := by
    have told : Summary.stageOf? ∘ StageTiming.toJson = fun timing =>
        pure (timing.stage, timing.elapsed.wholeMilliseconds % 2 ^ 64) :=
      funext StageTiming.stageOf?_toJson
    rw [List.mapM_map, told, List.mapM_pure]
    rfl
  simp [Summary.ofJson?, toJson, Json.get?, List.lookup_cons, Json.asText?, Json.asArray?, stages]
  rfl

theorem parse?_render (report : Report) : Json.parse? report.render = some report.toJson :=
  Json.parse?_pretty report.isReadable_toJson

theorem read?_render (report : Report) : Summary.read? report.render = some report.summary := by
  rw [Summary.read?, parse?_render]
  exact report.ofJson?_toJson

/-- Two reports that tell the same have the same stages in the same order, each with the same
milliseconds where these fit into 64 bits. -/
theorem agree_of_summary_eq {first second : Report} (told : first.summary = second.summary) :
    List.Forall₂ StageTiming.Agrees first.stages second.stages := by
  have pairs := List.forall₂_eq_eq_eq.symm ▸ congrArg Summary.stages told
  refine (List.forall₂_map_left_iff.mp (List.forall₂_map_right_iff.mp pairs)).imp ?_
  rintro timing other same
  obtain ⟨stages, milliseconds⟩ := Prod.mk.inj same
  refine ⟨stages, fun fits otherFits => ?_⟩
  rwa [Nat.mod_eq_of_lt fits, Nat.mod_eq_of_lt otherFits] at milliseconds

/-- The text of a report is a JSON text that tells its summary, so two reports with one text have
the same name and path, and their stages agree. -/
theorem render_tells (report : Report) :
    (report.render ≠ "" ∧ Json.parse? report.render = some report.toJson ∧
      Summary.read? report.render = some report.summary) ∧
      ∀ other : Report, other.render = report.render →
        other.name = report.name ∧ other.sourcePath = report.sourcePath ∧
          List.Forall₂ StageTiming.Agrees other.stages report.stages := by
  have nonempty : report.render ≠ "" := by
    intro empty
    have parsed := report.parse?_render
    have unparsed : Json.parse? "" = none := by decide
    rw [empty, unparsed] at parsed
    cases parsed
  refine ⟨⟨nonempty, report.parse?_render, report.read?_render⟩, fun other same => ?_⟩
  have told : other.summary = report.summary := by
    rw [← Option.some_inj, ← read?_render, ← read?_render, same]
  have names : other.name.text = report.name.text := congrArg Summary.name told
  exact ⟨congrArg ArtifactName.mk names, congrArg Summary.sourcePath told,
    agree_of_summary_eq told⟩

end Report

end QueryFoundry
