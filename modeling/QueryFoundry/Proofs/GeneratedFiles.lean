import QueryFoundry.Proofs.FileTrees
import QueryFoundry.Proofs.OctetTexts
import QueryFoundry.Proofs.SourceStore
import QueryFoundry.Proofs.ToolVerdicts
import QueryFoundry.Sandbox.Hosting

/-!
# What generation leaves behind

What the files of an in-memory machine are after a source was generated, however that ended. Each
way of ending is one of a few, with its answer, the files and what was asked of the host. Generation
itself makes directories and writes one file. What is different besides is the work of the producer
or of the formatter.
-/

namespace QueryFoundry

open Sandbox
open Text (Octets toOctets)

variable {σ μ : Type}

/-- The displays of an error and of the whole chain of its causes, outermost first. -/
def chainMessage : CauseChain → String
  | [] => ""
  | outermost :: causes => outermost ++ String.join (causes.map (": " ++ ·))

theorem causeText_eq (causes : CauseChain) : causeText causes = chainMessage causes := by
  cases causes with
  | nil => rfl
  | cons outermost causes =>
      induction causes generalizing outermost with
      | nil => simp [causeText, chainMessage]
      | cons cause causes ih =>
          have later := ih cause
          rw [causeText] at later ⊢
          rw [String.intercalate_cons_cons, later]
          simp only [chainMessage, List.map_cons, String.join_cons, String.append_assoc]

example : chainMessage ["no plan", "no table", "no file"] = "no plan: no table: no file" := by
  decide

namespace Workbench

/-- The places of two benches hold the same but for new directories, which are those at a path and
above it. -/
def GainsAbove (path : Path) (before after : Workbench μ) : Prop :=
  after.directory = before.directory ∧
    FileTree.Gains before.directory (FileTree.ancestorsOf (toOctets path)) before.machine.tree
      after.machine.tree

/-- A text was written to a path: if no device lies there, a file holds the text and nothing else.
The other places are as they were, but for new directories, which are those at another path and
above it. -/
structure Wrote (directory path : Path) (text : String) (before after : Workbench μ)
    (place : Location) : Prop where
  directory_eq : after.directory = before.directory
  found : (∀ kind, after.machine.tree.lookup place ≠ some (.device kind)) →
    ∃ executable, after.machine.tree.find after.directory (toOctets path) =
      .ok (place, .file (toOctets text) executable)
  others : ∀ other, other ≠ place →
    after.machine.tree.lookup other = before.machine.tree.lookup other ∨
      FileTree.IsMade before.directory (FileTree.ancestorsOf (toOctets directory))
        before.machine.tree after.machine.tree other

def textOf (bench : Workbench μ) : Entry → Except IoError String
  | .directory => .error .isADirectory
  | .file content _ => decode content
  | .device (.descriptor 0) => decode bench.input
  | .device .terminal => .error (.os 6)
  | .device _ => decode ""

theorem entry?_eq_some_iff {bench : Workbench μ} {path : Path} {entry : Entry} :
    bench.entry? path = some entry ↔ holdsNul path = false ∧
      ∃ place, bench.machine.tree.find bench.directory (toOctets path) = .ok (place, entry) := by
  unfold entry? withPath
  cases holdsNul path with
  | true => simp
  | false =>
      rcases bench.machine.tree.find bench.directory (toOctets path) with error | ⟨place, there⟩
      · simp
      · simp

theorem entry?_of_ascii {bench : Workbench μ} {path : Path} (nulless : holdsNul path = false)
    (ascii : ∀ character ∈ path.toList, character.toNat ≤ 0x7F) :
    bench.entry? path =
      (bench.machine.tree.find bench.directory path).toOption.map Prod.snd := by
  unfold entry? withPath
  rw [nulless, if_neg Bool.false_ne_true, Text.toOctets_ascii ascii]
  cases bench.machine.tree.find bench.directory path with
  | error error => rfl
  | ok there => rfl

variable (loader : ModuleLoader (Workbench μ))

theorem readText_eq (path : Path) (bench : Workbench μ) : (host loader).readText path bench =
    (match bench.entry? path with
      | some (.device (.descriptor 0)) => pure (decode bench.input)
      | _ => pure ((withPath path (bench.machine.tree.read bench.directory)).bind decode) :
      StateM (Workbench μ) (Except IoError String)) bench :=
  rfl

/-- What is read at a path depends only on what lies there. -/
theorem readText_of_found {bench : Workbench μ} {path : Path} {entry : Entry}
    (there : bench.entry? path = some entry) :
    (host loader).readText path bench = (bench.textOf entry, bench) := by
  obtain ⟨nulless, place, found⟩ := entry?_eq_some_iff.mp there
  have bytes : withPath path (bench.machine.tree.read bench.directory) =
      bench.machine.tree.read bench.directory (toOctets path) := by
    rw [withPath, nulless]
    rfl
  rw [readText_eq, there, bytes, FileTree.read, found]
  cases entry with
  | directory => rfl
  | file content executable => rfl
  | device kind =>
      cases kind with
      | descriptor number => cases number <;> rfl
      | _ => rfl

theorem readText_of_file {bench : Workbench μ} {path : Path} {text : String} {executable : Bool}
    (there : bench.entry? path = some (.file (toOctets text) executable)) :
    (host loader).readText path bench = (.ok text, bench) := by
  rw [readText_of_found loader there, textOf, decode, Text.ofOctets?_toOctets]

theorem exists_readText_of_missing {bench : Workbench μ} {path : Path}
    (missing : bench.entry? path = none) :
    ∃ error, (host loader).readText path bench = (.error error, bench) := by
  rw [readText_eq, missing]
  unfold entry? withPath at missing
  rw [withPath]
  cases nul : holdsNul path with
  | true => exact ⟨.nulInPath, rfl⟩
  | false =>
      rw [nul, if_neg Bool.false_ne_true] at missing
      rcases found : bench.machine.tree.find bench.directory (toOctets path) with error | there
      · rw [if_neg Bool.false_ne_true, FileTree.read, found]
        exact ⟨error, rfl⟩
      · rw [found] at missing
        cases missing

theorem gainsAbove_createDirectories {path : Path} {before after : Workbench μ}
    {answer : Except IoError Unit}
    (creates : (host loader).createDirectories path before = (answer, after)) :
    before.GainsAbove path after := by
  have altered : (host loader).createDirectories path before =
      alterTree (makeDirectories before.directory path) before := rfl
  rcases makes : makeDirectories before.directory path
    (before.machine.tree.atTime before.machine.clock) with ⟨made, tree⟩
  rw [altered, alterTree, makes] at creates
  cases creates
  refine ⟨rfl, FileTree.Gains.of_atTime before.machine.clock ?_⟩
  rw [makeDirectories] at makes
  split at makes
  · cases makes
    exact .refl _ _ _
  · have gains := FileTree.gains_makeDirectories
      (before.machine.tree.atTime before.machine.clock) before.directory (toOctets path)
    rwa [makes] at gains

theorem eq_of_writeText_error {path : Path} {text : String} {before after : Workbench μ}
    {error : IoError} (writes : (host loader).writeText path text before = (.error error, after)) :
    after = before := by
  have changed : (host loader).writeText path text before =
      changeTree (fun tree => withPath path fun octets =>
        tree.write before.directory octets (toOctets text)) before := rfl
  rw [changed, changeTree] at writes
  split at writes
  · cases writes
  · cases writes
    rfl

/-- Writing a text that succeeds has replaced the file tree by one with the text. -/
theorem writeText_eq_ok {path : Path} {text : String} {before after : Workbench μ}
    (writes : (host loader).writeText path text before = (.ok (), after)) :
    holdsNul path = false ∧ after.directory = before.directory ∧
      (before.machine.tree.atTime before.machine.clock).write before.directory (toOctets path)
        (toOctets text) = .ok after.machine.tree := by
  have changed : (host loader).writeText path text before =
      changeTree (fun tree => withPath path fun octets =>
        tree.write before.directory octets (toOctets text)) before := rfl
  rw [changed, changeTree, withPath] at writes
  cases nul : holdsNul path with
  | true =>
      rw [nul] at writes
      cases writes
  | false =>
      rw [nul, if_neg Bool.false_ne_true] at writes
      split at writes
      · rename_i tree written
        cases writes
        exact ⟨rfl, rfl, written⟩
      · cases writes

theorem wrote_of_writeText {directory path : Path} {text : String}
    {given made written : Workbench μ}
    (gains : given.GainsAbove directory made)
    (writes : (host loader).writeText path text made = (.ok (), written)) :
    ∃ place, given.Wrote directory path text written place := by
  obtain ⟨-, kept, writesTree⟩ := writeText_eq_ok loader writes
  obtain ⟨directory_eq, gains⟩ := gains
  obtain ⟨keeps, place, others, found⟩ := FileTree.write_eq_ok writesTree
  refine ⟨place, kept.trans directory_eq, fun undevised => ?_, fun other differs => ?_⟩
  · rw [kept]
    rcases found with found | ⟨kind, device, -, same⟩
    · exact found
    · rw [same] at undevised
      exact absurd device (undevised kind)
  · rw [others other differs]
    rcases gains other with same | isMade
    · exact .inl same
    · exact .inr (isMade.later ⟨keeps.directory, keeps.present⟩)

/-- Where a text was written a file holds it now, unless a device lies there. -/
theorem entry?_of_writeText {path : Path} {text : String} {before after : Workbench μ}
    (writes : (host loader).writeText path text before = (.ok (), after)) :
    (∃ executable, after.entry? path = some (.file (toOctets text) executable)) ∨
      ∃ kind, after.entry? path = some (.device kind) := by
  obtain ⟨nulless, kept, writesTree⟩ := writeText_eq_ok loader writes
  obtain ⟨-, place, -, ⟨executable, found⟩ | ⟨kind, -, found, same⟩⟩ :=
    FileTree.write_eq_ok writesTree
  · rw [← kept] at found
    exact .inl ⟨executable, entry?_eq_some_iff.mpr ⟨nulless, place, found⟩⟩
  · rw [← kept, ← same] at found
    exact .inr ⟨kind, entry?_eq_some_iff.mpr ⟨nulless, place, found⟩⟩

end Workbench

/-- As long as a bench is ready it stays so, and what lies at a place stays the same. -/
def Workbench.Spares (ready : Workbench μ → Prop) (place : Location) (before after : Workbench μ) :
    Prop :=
  ready before → ready after ∧ after.machine.tree.lookup place = before.machine.tree.lookup place

instance (ready : Workbench μ → Prop) (place : Location) :
    IsPreorder (Workbench μ) (Workbench.Spares ready place) where
  refl _ isReady := ⟨isReady, rfl⟩
  trans _ _ _ first second isReady := by
    obtain ⟨isReady, same⟩ := first isReady
    obtain ⟨isReady, again⟩ := second isReady
    exact ⟨isReady, again.trans same⟩

/-- What a formatter leaves of a source that was written. It is only supervised, and its answer is
its verdict. The file is as the formatter leaves it: as it was written, if the formatter could not
be started or nothing that happens on the machine meanwhile touches the file. -/
structure Formatter.Leaves (loader : ModuleLoader (Workbench μ)) (formatter : Formatter)
    (path : Path) (place : Location) (written : Workbench μ) (answer : Except PipelineError Unit)
    (after : Workbench μ) (events : List Event) : Prop where
  judged : ∃ verdict, Judged (Workbench.host loader) (formatter.command path) formatter.timeout
    (.format path) (.formatTimeout path) written answer verdict
  supervision : ∀ event ∈ events, event.IsSupervision
  unstarted : ∀ error,
    events = [.spawned (Supervision.started (formatter.command path) formatter.timeout)
      (.error error)] → after.machine = written.machine
  untouched : ∀ ready : Workbench μ → Prop, ready written →
    Supervision.MovesIn (Workbench.Spares ready place) (Workbench.host loader)
      (Supervision.started (formatter.command path) formatter.timeout) →
    after.machine.tree.lookup place = written.machine.tree.lookup place

theorem Workbench.eq_of_spawn_error (loader : ModuleLoader (Workbench μ)) {command : Command}
    {error : IoError} {before after : Workbench μ}
    (refused : (host loader).spawn command before = (.error error, after)) : after = before := by
  have starts : (host loader).spawn command before =
      start command (if command.quiet then .null else .stream before.machine.outputStream)
        (.stream before.machine.errorStream) before := rfl
  rw [starts, start] at refused
  dsimp only at refused
  split at refused
  · cases refused
    rfl
  split at refused
  · cases refused
    rfl
  split at refused
  · cases refused
    rfl
  split at refused
  · cases refused
    rfl
  · cases refused

theorem Formatter.recordsTo_formatInPlace (loader : ModuleLoader (Workbench μ))
    (formatter : Formatter) (path : Path) (place : Location) (written : Workbench μ) :
    RecordsTo written (formatter.formatInPlace (Workbench.host loader).recorded path)
      (formatter.formatInPlace (Workbench.host loader) path)
      (formatter.Leaves loader path place written) := by
  intro events
  obtain ⟨added, equal, supervised⟩ := Supervision.recordsAt_run (Workbench.host loader)
    (formatter.command path) formatter.timeout written events
  rcases ran : Supervision.run (Workbench.host loader) (formatter.command path) formatter.timeout
    written with ⟨outcome, after⟩
  have judged := formatter.exists_judged (Workbench.host loader) path written
  rw [formatInPlace_eq ran] at judged
  rw [ran] at equal supervised
  rw [formatInPlace_eq ran]
  refine ⟨added, formatInPlace_eq equal, judged, supervised.isSupervision, ?_, ?_⟩
  · rintro error rfl
    cases supervised with
    | unstarted refused =>
        rw [Supervision.run_refused refused] at ran
        cases ran
        rw [Workbench.eq_of_spawn_error loader refused]
        rfl
  · intro ready isReady moves
    exact ((Supervision.moves_run moves).of_eq ran isReady).2

namespace SourceGenerator

/-- What writing a text as the source of an artifact leaves. Where the directory cannot be made or
the file cannot be opened, no file is different and there are only new directories. -/
inductive Writing (generator : SourceGenerator) (name : ArtifactName) (text : String)
    (given : Workbench μ) : Except PipelineError Path → Workbench μ → List Event → Prop
  | uncreated {error : IoError} {after : Workbench μ}
      (gains : given.GainsAbove generator.layout.generatedDir after) :
      Writing generator name text given
        (.error (failure name "create" generator.layout.generatedDir error)) after
        [.directoriesCreated generator.layout.generatedDir (.error error)]
  | unopened {error : IoError} {after : Workbench μ}
      (gains : given.GainsAbove generator.layout.generatedDir after) :
      Writing generator name text given
        (.error (failure name "write" (generator.layout.sourcePath name.text) error)) after
        [.directoriesCreated generator.layout.generatedDir (.ok ()),
          .textWritten (generator.layout.sourcePath name.text) text (.error error)]
  | written {after : Workbench μ} {place : Location}
      (wrote : given.Wrote generator.layout.generatedDir (generator.layout.sourcePath name.text)
        text after place) :
      Writing generator name text given (.ok (generator.layout.sourcePath name.text)) after
        [.directoriesCreated generator.layout.generatedDir (.ok ()),
          .textWritten (generator.layout.sourcePath name.text) text (.ok ())]

/-- What the generation of a source leaves, in each way of ending. -/
inductive Leaves (loader : ModuleLoader (Workbench μ)) (generator : SourceGenerator)
    (producer : Producer (Workbench μ)) (name : ArtifactName) (bench : Workbench μ) :
    Except PipelineError Path → Workbench μ → List Event → Prop
  | unproduced {causes : CauseChain} {after : Workbench μ}
      (produced : producer bench = (.error causes, after)) :
      Leaves loader generator producer name bench
        (.error (.generation name.text (chainMessage causes))) after [.produced (.error causes)]
  | unwritten {text : String} {given after : Workbench μ} {error : PipelineError}
      {events : List Event} (produced : producer bench = (.ok text, given))
      (writing : Writing generator name text given (.error error) after events) :
      Leaves loader generator producer name bench (.error error) after
        (.produced (.ok text) :: events)
  | unformatted {text : String} {given after : Workbench μ} {path : Path} {events : List Event}
      (produced : producer bench = (.ok text, given))
      (writing : Writing generator name text given (.ok path) after events)
      (absent : generator.formatter = none) :
      Leaves loader generator producer name bench (.ok path) after
        (.produced (.ok text) :: events)
  | formatted {text : String} {given written after : Workbench μ} {place : Location}
      {formatter : Formatter} {answer : Except PipelineError Unit} {supervision : List Event}
      (produced : producer bench = (.ok text, given))
      (wrote : given.Wrote generator.layout.generatedDir (generator.layout.sourcePath name.text)
        text written place)
      (present : generator.formatter = some formatter)
      (formats : formatter.Leaves loader (generator.layout.sourcePath name.text) place written
        answer after supervision) :
      Leaves loader generator producer name bench
        (answer.map fun _ => generator.layout.sourcePath name.text) after
        (.produced (.ok text) :: .directoriesCreated generator.layout.generatedDir (.ok ()) ::
          .textWritten (generator.layout.sourcePath name.text) text (.ok ()) :: supervision)

variable (loader : ModuleLoader (Workbench μ))

theorem recordsTo_write (generator : SourceGenerator) (name : ArtifactName) (text : String)
    (given : Workbench μ) :
    RecordsTo given (generator.write (Workbench.host loader).recorded name text)
      (generator.write (Workbench.host loader) name text) (Writing generator name text given) := by
  refine (RecordsTo.recording (.directoriesCreated generator.layout.generatedDir) _ given).bind ?_
  rintro answer made _ ⟨creates, rfl⟩
  have gains := Workbench.gainsAbove_createDirectories loader creates
  cases answer with
  | error error => exact .pure (.uncreated gains)
  | ok _ =>
      refine (RecordsTo.recording
        (.textWritten (generator.layout.sourcePath name.text) text) _ made).bind ?_
      rintro answer written _ ⟨writes, rfl⟩
      cases answer with
      | error error =>
          obtain rfl := Workbench.eq_of_writeText_error loader writes
          exact .pure (.unopened gains)
      | ok _ =>
          obtain ⟨place, wrote⟩ := Workbench.wrote_of_writeText loader gains writes
          refine (RecordsTo.besides _ written).bind ?_
          rintro _ _ _ ⟨⟨⟩, rfl⟩
          exact .pure (.written ⟨wrote.directory_eq, wrote.found, wrote.others⟩)

theorem recordsTo_format (generator : SourceGenerator) {formatter : Formatter}
    (present : generator.formatter = some formatter) (path : Path) (place : Location)
    (written : Workbench μ) :
    RecordsTo written (generator.format (Workbench.host loader).recorded path)
      (generator.format (Workbench.host loader) path) fun answer after events =>
        ∃ formatted, answer = formatted.map (fun _ => path) ∧
          formatter.Leaves loader path place written formatted after events := by
  unfold format
  rw [present]
  refine (formatter.recordsTo_formatInPlace loader path place written).bind ?_
  intro answer after front formats
  cases answer with
  | error error =>
      refine .pure ⟨.error error, rfl, ?_⟩
      rwa [List.append_nil]
  | ok _ =>
      refine (RecordsTo.besides _ after).bind ?_
      rintro _ _ _ ⟨⟨⟩, rfl⟩
      refine .pure ⟨.ok (), rfl, ?_⟩
      rw [List.append_nil, List.append_nil]
      exact ⟨formats.judged, formats.supervision, formats.unstarted, formats.untouched⟩

/-- Whatever a producer gives for whatever name, generation ends in one of a few ways, each with
what it leaves of the files. If there is no text, nothing is different from what the producer left.
If the text cannot be written, there are only new directories. If there is no formatter, the path
that is returned is that of a file with the text. Else the formatter is supervised once the file is
written, and nothing is done to the file after that. -/
theorem generate_leaves (generator : SourceGenerator) (producer : Producer (Workbench μ))
    (name : ArtifactName) (bench : Workbench μ) :
    RecordsTo bench
      (generator.generate (Workbench.host loader).recorded (recording .produced producer) name)
      (generator.generate (Workbench.host loader) producer name)
      (Leaves loader generator producer name bench) := by
  refine (RecordsTo.recording .produced producer bench).bind ?_
  rintro answer given _ ⟨produced, rfl⟩
  cases answer with
  | error causes =>
      dsimp only
      rw [causeText_eq]
      exact .pure (.unproduced produced)
  | ok text =>
      refine (recordsTo_write loader generator name text given).bind ?_
      intro answer written front writing
      cases answer with
      | error error =>
          refine .pure (.unwritten produced ?_)
          rwa [List.append_nil]
      | ok path =>
          dsimp only
          cases present : generator.formatter with
          | none =>
              rw [format_eq_pure present, format_eq_pure present]
              refine .pure (.unformatted produced ?_ present)
              rwa [List.append_nil]
          | some formatter =>
              -- Of the ways that writing ends, only one gives a path.
              cases writing with
              | @written _ place wrote =>
                  refine (recordsTo_format loader generator present _ place written).mono ?_
                  rintro _ _ _ ⟨answer, rfl, formats⟩
                  exact .formatted produced wrote present formats

end SourceGenerator

end QueryFoundry
