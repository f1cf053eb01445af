import QueryFoundry.CommandLine.SourceText
import QueryFoundry.Proofs.BridgeReading
import QueryFoundry.Proofs.ModuleExecution

/-!
# The init function of a bridge

Which init function the bridge for a module defines, and which one a run of the module looks up. The
name of the one starts in the usual way, the name of the other as the configuration says.
-/

namespace QueryFoundry

variable {σ : Type}

/-- What the definition of an init function starts with. -/
def initDefinitionStart : String := "extern \"C\" const querygen_module *"

/-- The line that defines an init function over the table of a module. -/
def initDefinition (symbol : String) : String :=
  initDefinitionStart ++ symbol ++ "(void) \x7b return &module_table; \x7d"

theorem initDefinition_injective : Function.Injective initDefinition := by
  intro first second same
  simpa only [initDefinition, String.append_left_inj, String.append_right_inj] using same

/-- A line that does not define an init function. -/
def IsOther (line : String) : Prop := ¬initDefinitionStart.toList <+: line.toList

instance : DecidablePred IsOther := fun line =>
  inferInstanceAs (Decidable ¬initDefinitionStart.toList <+: line.toList)

theorem isOther_append {start : String} (other : IsOther start)
    (differs : ¬start.toList <+: initDefinitionStart.toList) (middle rest : String) :
    IsOther (start ++ middle ++ rest) := by
  rw [IsOther, String.append_assoc, String.toList_append]
  exact not_prefix_append other differs _

theorem not_isOther (symbol : String) : ¬IsOther (initDefinition symbol) := by
  simp [IsOther, initDefinition, String.toList_append]

namespace QueryShape

theorem initLine_eq (name : String) : initLine name = initDefinition (initSymbol name) := rfl

theorem isOther_of_mem_fetchBody (fetch : FetchMode) :
    ∀ line ∈ fetchBody fetch, IsOther line := by
  cases fetch with
  | placeholder value =>
      have returned : IsOther ("  return " ++ placeholderExpression value ++ ";") :=
        isOther_append (by decide +kernel) (by decide +kernel) _ _
      exact List.forall_mem_cons.mpr ⟨by decide +kernel, List.forall_mem_singleton.mpr returned⟩
  | member name =>
      have returned : IsOther ("  return static_cast<long>(q->" ++ name ++ ");") :=
        isOther_append (by decide +kernel) (by decide +kernel) _ _
      exact List.forall_mem_cons.mpr ⟨by decide +kernel, List.forall_mem_singleton.mpr returned⟩

def frontLines (shape : QueryShape) (name : String) : List String :=
  shape.linesBeforeFetch name ++ (fetchLine :: (fetchBody shape.fetch ++ releaseLines))

theorem lines_eq_frontLines (shape : QueryShape) (name : String) :
    shape.lines name = shape.frontLines name ++ [initLine name] := by
  rw [lines_eq, ← List.append_assoc, headLines_append_middleLines]
  simp only [frontLines, List.append_assoc, List.cons_append, List.nil_append]

/-- No line of a bridge but its last one defines an init function. -/
theorem isOther_of_mem_frontLines (shape : QueryShape) (name : String) :
    ∀ line ∈ shape.frontLines name, IsOther line := by
  have before : ∀ line ∈ shape.linesBeforeFetch name, IsOther line :=
    shape.not_prefix_of_mem_linesBeforeFetch name (by decide +kernel) (by decide +kernel)
  have opened : IsOther fetchLine := by decide +kernel
  have released : ∀ line ∈ releaseLines, IsOther line := by decide +kernel
  simp only [frontLines, List.forall_mem_append, List.forall_mem_cons]
  exact ⟨before, opened, isOther_of_mem_fetchBody shape.fetch, released⟩

theorem initDefinition_mem_lines_iff (shape : QueryShape) (name symbol : String) :
    initDefinition symbol ∈ shape.lines name ↔ symbol = initSymbol name := by
  rw [lines_eq_frontLines, List.mem_append, List.mem_singleton, initLine_eq]
  constructor
  · rintro (inFront | same)
    · exact absurd (shape.isOther_of_mem_frontLines name _ inFront) (not_isOther symbol)
    · exact initDefinition_injective same
  · rintro rfl
    exact .inr rfl

end QueryShape

namespace CommandLine

theorem appendBridge_eq (text name : String) :
    appendBridge text name = text ++ closing text ++ bridgeSource name := by
  have decided : (!text.isEmpty && text.toList.getLast? != some '\n') = decide (IsOpen text) := by
    rw [Bool.eq_iff_iff, decide_eq_true_iff, IsOpen, Bool.and_eq_true, bne_iff_ne,
      Bool.not_eq_true', ne_eq text, ← String.isEmpty_iff, Bool.not_eq_true]
  simp only [appendBridge, decided, decide_eq_true_iff, closing]
  split
  · rfl
  · rw [String.append_empty]

/-- What is put in front of a bridge ends its last line. -/
theorem exists_appendBridge_eq (text name : String) :
    ∃ front : String, appendBridge text name = front ++ bridgeSource name ∧
      ∀ last, front.toList.getLast? = some last → last = '\n' := by
  refine ⟨text ++ closing text, appendBridge_eq text name, fun last ends => ?_⟩
  rcases eq_empty_or_ended_of_not_isOpen (not_isOpen_append_closing text) with empty | closed
  · rw [empty] at ends
    cases ends
  · exact Option.some.inj (ends.symm.trans closed)

theorem exists_sourceProducer_eq {host : Host σ} {path : Path} {name text : String} {state : σ}
    (produced : (sourceProducer host path (some name) state).1 = .ok text) :
    ∃ source, text = appendBridge source name := by
  change (readSource host path state).1.map (appendBridge · name) = .ok text at produced
  cases read : (readSource host path state).1 with
  | error error =>
      rw [read] at produced
      cases produced
  | ok source =>
      rw [read] at produced
      exact ⟨source, (Except.ok.inj produced).symm⟩

end CommandLine

namespace ModuleExecutor

section

variable {host : Host σ} {state : σ} {path : Path} {symbol : String}
variable {answer : Except PipelineError ExecutionReport} {events : List Event}

/-- A run looks up the init function that it is given and no other. -/
theorem Ran.symbol_eq {library : Library} {called : String}
    {found : Except LoadError (Option ModuleTable)}
    (ran : Ran host state path symbol answer events)
    (looked : .initCalled library called found ∈ events) : called = symbol := by
  cases ran with
  | absent => cases looked
  | refused => simp at looked
  | entered present entered =>
      cases entered with
      | missing | empty | foreign => simp_all
      | queried fits queried => cases queried <;> simp_all

theorem Ran.found {report : ExecutionReport}
    (ran : Ran host state path symbol (.ok report) events) :
    ∃ library table, .initCalled library symbol (.ok (some table)) ∈ events := by
  cases ran with
  | @entered library _ _ present entered =>
      cases entered with
      | @queried table _ _ fits queried => exact ⟨library, table, by simp⟩

end

theorem initSymbol_eq_iff (layout : EngineLayout) (config : ExecuteConfig) (name : ArtifactName) :
    initSymbol ⟨layout, config⟩ name = QueryFoundry.initSymbol name.text ↔
      config.initSymbolStart = initSymbolStart :=
  String.append_left_inj name.text

/-- The bridge that is put behind a source defines one init function, whose name starts in the usual
way. A run of the artifact looks up the function whose name starts as the configuration says, and
does not succeed without it. The two are the same exactly when the configuration keeps the usual
start. -/
theorem bridge_symbol_eq_iff (host : Host σ) (layout : EngineLayout) (config : Config)
    (name : ArtifactName) :
    (∀ path state text,
      (CommandLine.sourceProducer host path (some name.text) state).1 = .ok text →
        ∃ front : String, text = front ++ QueryShape.render {} name.text ∧
          ∀ last, front.toList.getLast? = some last → last = '\n') ∧
    (∀ symbol, initDefinition symbol ∈ QueryShape.lines {} name.text ↔
      symbol = QueryFoundry.initSymbol name.text) ∧
    (∀ state, RecordsAt state (run host.recorded ⟨layout, config.execute⟩ name)
      (run host ⟨layout, config.execute⟩ name) fun answer events =>
        (∀ library symbol found, .initCalled library symbol found ∈ events →
          symbol = config.execute.initSymbolStart ++ name.text) ∧
        ∀ report, answer = .ok report → ∃ library table,
          .initCalled library (config.execute.initSymbolStart ++ name.text) (.ok (some table)) ∈
            events) ∧
    (config.execute.initSymbolStart ++ name.text = QueryFoundry.initSymbol name.text ↔
      config.execute.initSymbolStart = initSymbolStart) := by
  refine ⟨fun path state text produced => ?_,
    QueryShape.initDefinition_mem_lines_iff {} name.text, fun state => ?_,
    initSymbol_eq_iff layout config.execute name⟩
  · obtain ⟨source, rfl⟩ := CommandLine.exists_sourceProducer_eq produced
    exact CommandLine.exists_appendBridge_eq source name.text
  · refine (recordsAt_run host ⟨layout, config.execute⟩ name state).mono fun events ran => ?_
    refine ⟨fun library symbol found looked => ran.symbol_eq looked, fun report succeeded => ?_⟩
    rw [succeeded] at ran
    exact ran.found

/-- With another start in the configuration, the bridge defines another function than the one that
is looked up. -/
theorem bridge_symbol_custom_start :
    ¬∀ (layout : EngineLayout) (config : Config) (name : ArtifactName),
      initDefinition (initSymbol ⟨layout, config.execute⟩ name) ∈
        QueryShape.lines {} name.text := by
  intro same
  have defined := same (.ofRoot "/w") { execute := { initSymbolStart := "custom_" } } ⟨"t1"⟩
  rw [QueryShape.initDefinition_mem_lines_iff, initSymbol_eq_iff] at defined
  exact absurd defined (by decide)

end ModuleExecutor

end QueryFoundry
