import QueryFoundry.Proofs.HostChanges
import QueryFoundry.Proofs.PipelineRuns
import QueryFoundry.Proofs.TimeLimit

/-!
# Sources that last

What the directory of generated sources holds after a sequence of runs, on a host where nothing else
writes there: each source is the text that its producer gave last, whatever came of the run after
that, and no run changes the source of another artifact.
-/

namespace QueryFoundry

variable {σ ε α : Type}

/-- A name of a file in a directory, and not a path that leads elsewhere. -/
def IsEntry (entry : String) : Prop :=
  entry ≠ "" ∧ entry ≠ "." ∧ entry ≠ ".." ∧ '/' ∉ entry.toList

/-- A text without a separator that ends in another mark than a dot names an entry. -/
theorem isEntry_of_getLast? {entry : String} {last : Char}
    (ends : entry.toList.getLast? = some last) (plain : last ≠ '.')
    (unseparated : '/' ∉ entry.toList) : IsEntry entry := by
  refine ⟨?_, ?_, ?_, unseparated⟩
  · rintro rfl
    cases ends
  · rintro rfl
    exact plain (Option.some.inj ends).symm
  · rintro rfl
    exact plain (Option.some.inj ends).symm

/-- The files of a directory of a host, by their names. Nothing is added to a directory when it is
created. A file that is written holds the text and nothing else, and the other files of the
directory stay as they are. -/
structure Directory (host : Host σ) (path : Path) where
  held : σ → String → Option ByteArray
  held_create : ∀ state, held (host.createDirectories path state).2 = held state
  held_write : ∀ entry text state after, IsEntry entry →
    host.writeText (Path.join path entry) text state = (.ok (), after) →
      held after = Function.update (held state) entry (some text.toUTF8)

namespace ArtifactName

variable {name : ArtifactName}

theorem continues_of_mem (identifier : name.isIdentifier) :
    ∀ character ∈ name.text.toList, continuesIdentifier character := by
  unfold isIdentifier at identifier
  split at identifier
  · cases identifier
  · rename_i first rest characters
    obtain ⟨starts, continues⟩ := Bool.and_eq_true_iff.mp identifier
    rw [characters, List.forall_mem_cons]
    refine ⟨?_, List.all_eq_true.mp continues⟩
    simp only [startsIdentifier, continuesIdentifier, Char.isAlphanum, Bool.or_eq_true] at starts ⊢
    exact starts.imp_right .inl

theorem not_mem_of_identifier (identifier : name.isIdentifier) {mark : Char}
    (foreign : continuesIdentifier mark = false) : mark ∉ name.text.toList := fun member =>
  absurd (continues_of_mem identifier mark member) (by simp [foreign])

end ArtifactName

def sourceEntry (name : ArtifactName) : String :=
  name.text ++ ".cpp"

theorem sourceEntry_injective : Function.Injective sourceEntry := by
  rintro ⟨first⟩ ⟨second⟩ same
  exact congrArg ArtifactName.mk ((String.append_left_inj ".cpp").mp same)

theorem isEntry_sourceEntry {name : ArtifactName} (identifier : name.isIdentifier) :
    IsEntry (sourceEntry name) := by
  have ends : (sourceEntry name).toList.getLast? = some 'p' := by
    simp [sourceEntry]
  refine isEntry_of_getLast? ends (by decide) ?_
  rw [sourceEntry, String.toList_append, List.mem_append]
  rintro (inName | inEnding)
  · exact ArtifactName.not_mem_of_identifier identifier (by decide) inName
  · exact absurd inEnding (by decide)

/-- The text that an event brought in. -/
def Event.text? : Event → Option String
  | produced (.ok text) => some text
  | _ => none

def textsOf (events : List Event) : List String :=
  events.filterMap Event.text?

theorem textsOf_append (first second : List Event) :
    textsOf (first ++ second) = textsOf first ++ textsOf second :=
  List.filterMap_append

/-- What a directory holds after some texts were written to one of its files. -/
def stored (entry : String) (texts : List String) (held : String → Option ByteArray) :
    String → Option ByteArray :=
  texts.foldl (fun held text => Function.update held entry (some text.toUTF8)) held

theorem stored_append (entry : String) (first second : List String)
    (held : String → Option ByteArray) :
    stored entry (first ++ second) held = stored entry second (stored entry first held) :=
  List.foldl_append

theorem stored_other {entry other : String} (differs : other ≠ entry) (texts : List String)
    (held : String → Option ByteArray) : stored entry texts held other = held other := by
  induction texts generalizing held with
  | nil => rfl
  | cons text texts ih => exact (ih _).trans (Function.update_of_ne differs _ _)

theorem stored_self (entry : String) (texts : List String) (held : String → Option ByteArray) :
    stored entry texts held entry =
      match texts.getLast? with
      | some text => some text.toUTF8
      | none => held entry := by
  induction texts generalizing held with
  | nil => rfl
  | cons text texts ih =>
      refine (ih _).trans ?_
      rw [List.getLast?_cons]
      cases texts.getLast? with
      | none => exact Function.update_self ..
      | some last => rfl

theorem recording_eq {action : StateM σ α} {state after : σ} {answer : α}
    (gives : action state = (answer, after)) (event : α → Event) (events : List Event) :
    recording event action (state, events) = (answer, (after, events ++ [event answer])) := by
  simp only [recording, gives]

section

variable {host : Host σ} {path : Path}

/-- The directory stays ready and holds what it held. -/
def Leaves (files : Directory host path) (ready : σ → Prop) (before after : σ) : Prop :=
  ready before → ready after ∧ files.held after = files.held before

/-- The directory stays ready, and of its files only one changes: the texts that producers gave on
the way were written to it. -/
def Stores (files : Directory host path) (ready : σ → Prop) (entry : String)
    (before after : σ × List Event) : Prop :=
  ready before.1 → ∃ added, after.2 = before.2 ++ added ∧ ready after.1 ∧
    files.held after.1 = stored entry (textsOf added) (files.held before.1)

variable {files : Directory host path} {ready : σ → Prop} {entry : String}

instance : IsPreorder (σ × List Event) (Stores files ready entry) where
  refl state isReady := ⟨[], by simp, isReady, rfl⟩
  trans first second third toSecond toThird isReady := by
    obtain ⟨front, events, isReady, held⟩ := toSecond isReady
    obtain ⟨back, eventsBehind, isReady, heldBehind⟩ := toThird isReady
    refine ⟨front ++ back, by rw [eventsBehind, events, List.append_assoc], isReady, ?_⟩
    rw [heldBehind, held, textsOf_append, stored_append]

theorem moves_recording {event : α → Event} {action : StateM σ α}
    (leaves : Moves (Leaves files ready) action) (silent : ∀ answer, (event answer).text? = none) :
    Moves (Stores files ready entry) (recording event action) := by
  intro before isReady
  obtain ⟨isReady, held⟩ := leaves before.1 isReady
  refine ⟨[event (action before.1).1], rfl, isReady, ?_⟩
  simp only [textsOf, List.filterMap_cons, silent]
  exact held

theorem moves_besides {action : StateM σ α} (leaves : Moves (Leaves files ready) action) :
    Moves (Stores files ready entry) (besides action) := by
  intro before isReady
  obtain ⟨isReady, held⟩ := leaves before.1 isReady
  exact ⟨[], (List.append_nil _).symm, isReady, held⟩

theorem Pipeline.MovesIn.recorded {pipeline : Pipeline σ ε} {name : ArtifactName}
    (moves : Pipeline.MovesIn (Leaves files ready) host pipeline name) :
    Pipeline.MovesIn (Stores files ready entry) host.recorded pipeline.recorded name where
  build :=
    { log := fun entry => moves_besides (moves.build.log entry)
      pause := fun delay => moves_recording (moves.build.pause delay) fun _ => rfl
      spawn := moves_recording moves.build.spawn fun _ => rfl
      poll := fun child => moves_recording (moves.build.poll child) fun _ => rfl
      wait := fun child => moves_recording (moves.build.wait child) fun _ => rfl
      killGroup := fun child => moves_recording (moves.build.killGroup child) fun _ => rfl }
  execute memory := moves_recording (moves.execute memory) fun _ => rfl
  tell :=
    { started := fun name stage => moves_recording (moves.tell.started name stage) fun _ => rfl
      completed := fun name stage elapsed =>
        moves_recording (moves.tell.completed name stage elapsed) fun _ => rfl
      failed := fun name stage error =>
        moves_recording (moves.tell.failed name stage error) fun _ => rfl }

end

namespace SourceGenerator

variable {host : Host σ} {generator : SourceGenerator}

theorem format_eq_pure (unformatted : generator.formatter = none) (path : Path) :
    generator.format host path = pure (.ok path) := by
  rw [format, unformatted]

/-- Where there is no formatter, generation does nothing but to write what the producer gives. -/
theorem generate_of_unformatted (unformatted : generator.formatter = none) {producer : Producer σ}
    {name : ArtifactName} {text : String} {state given : σ}
    (produced : producer state = (.ok text, given)) :
    generator.generate host producer name state = generator.write host name text given := by
  refine (bind_of_eq produced _).trans ?_
  dsimp only
  rcases wrote : generator.write host name text given with ⟨error | path, after⟩
  · exact bind_of_eq wrote _
  · refine (bind_of_eq wrote _).trans ?_
    dsimp only
    rw [format_eq_pure unformatted]
    rfl

/-- A text is written where the directory is created and the file is opened, and only there. -/
theorem write_eq_ok_iff {name : ArtifactName} {text : String} {given after : σ} {path : Path} :
    generator.write host name text given = (.ok path, after) ↔
      ∃ made written, host.createDirectories generator.layout.generatedDir given = (.ok (), made) ∧
        host.writeText (generator.layout.sourcePath name.text) text made = (.ok (), written) ∧
        path = generator.layout.sourcePath name.text ∧
        after = (host.inform .generating ("Generated " ++ path) written).2 := by
  rw [write]
  constructor
  · intro wrote
    rcases creates : host.createDirectories generator.layout.generatedDir given with
      ⟨error | done, made⟩
    · rw [bind_of_eq creates] at wrote
      cases wrote
    · rw [bind_of_eq creates] at wrote
      dsimp only at wrote
      rcases writes : host.writeText (generator.layout.sourcePath name.text) text made with
        ⟨error | done, written⟩
      · rw [bind_of_eq writes] at wrote
        cases wrote
      · rw [bind_of_eq writes] at wrote
        cases wrote
        exact ⟨made, written, rfl, writes, rfl, rfl⟩
  · rintro ⟨made, written, creates, writes, rfl, rfl⟩
    refine (bind_of_eq creates _).trans ?_
    exact bind_of_eq writes _

/-- A source that is written, with what is written down. -/
theorem write_recorded {name : ArtifactName} {text : String} {state created written : σ}
    (create : host.createDirectories generator.layout.generatedDir state = (.ok (), created))
    (write : host.writeText (generator.layout.sourcePath name.text) text created =
      (.ok (), written)) (events : List Event) :
    generator.write host.recorded name text (state, events) =
      (.ok (generator.layout.sourcePath name.text),
        ((host.inform .generating
            ("Generated " ++ generator.layout.sourcePath name.text) written).2,
          events ++ [.directoriesCreated generator.layout.generatedDir (.ok ()),
            .textWritten (generator.layout.sourcePath name.text) text (.ok ())])) := by
  refine write_eq_ok_iff.mpr ⟨_, _, recording_eq create _ events, recording_eq write _ _, rfl, ?_⟩
  rw [List.append_assoc]
  rfl

end SourceGenerator

namespace Pipeline

variable {host : Host σ}

/-- The directory of generated sources can be created, and the source of each artifact that is asked
for can be written. Nothing else that is done in the runs of a pipeline writes there: not the
producers, nor the build tool, nor the executor, nor the callback. -/
structure Undisturbed (host : Host σ) (pipeline : Pipeline σ ε) (requests : List (Request σ))
    (files : Directory host pipeline.generator.layout.generatedDir) (ready : σ → Prop) : Prop where
  create : ∀ state, ready state → ∃ after, ready after ∧
    host.createDirectories pipeline.generator.layout.generatedDir state = (.ok (), after)
  write : ∀ request ∈ requests, ∀ text state, ready state → ∃ after, ready after ∧
    host.writeText (pipeline.generator.layout.sourcePath request.name.text) text state =
      (.ok (), after)
  produce : ∀ request ∈ requests, Moves (Leaves files ready) request.producer
  work : ∀ request ∈ requests, MovesIn (Leaves files ready) host pipeline request.name

/-- A text that a producer gives is written, and nothing is written where it gives none. -/
theorem Undisturbed.moves_generate {pipeline : Pipeline σ ε} {requests : List (Request σ)}
    {files : Directory host pipeline.generator.layout.generatedDir} {ready : σ → Prop}
    (undisturbed : Undisturbed host pipeline requests files ready)
    (unformatted : pipeline.generator.formatter = none) {request : Request σ}
    (member : request ∈ requests) (identifier : request.name.isIdentifier) :
    Moves (Stores files ready (sourceEntry request.name))
      (pipeline.generator.generate host.recorded (recording .produced request.producer)
        request.name) := by
  rintro ⟨state, events⟩ isReady
  rcases asked : request.producer state with ⟨answer, given⟩
  have left := undisturbed.produce request member state isReady
  rw [asked] at left
  obtain ⟨isReady, held⟩ := left
  rw [SourceGenerator.generate, bind_of_eq (recording_eq asked .produced events)]
  cases answer with
  | error causes => exact ⟨_, rfl, isReady, held⟩
  | ok text =>
      obtain ⟨created, isReady, create⟩ := undisturbed.create given isReady
      obtain ⟨written, isReady, write⟩ := undisturbed.write request member text created isReady
      obtain ⟨isReady, logged⟩ := (undisturbed.work request member).build.log _ written isReady
      have createdHeld := files.held_create given
      rw [create] at createdHeld
      have writtenHeld := files.held_write (sourceEntry request.name) text created written
        (isEntry_sourceEntry identifier) write
      dsimp only
      rw [bind_of_eq (SourceGenerator.write_recorded create write _)]
      dsimp only
      rw [SourceGenerator.format_eq_pure unformatted]
      refine ⟨[.produced (.ok text),
        .directoriesCreated pipeline.generator.layout.generatedDir (.ok ()),
        .textWritten (pipeline.generator.layout.sourcePath request.name.text) text (.ok ())],
        List.append_assoc .., isReady, ?_⟩
      refine logged.trans (writtenHeld.trans ?_)
      rw [createdHeld, held]
      rfl

/-- A run that is watched goes as it does unwatched. From a directory that is ready, it writes the
text that its producer gives, if it gives one, and changes nothing else there. -/
theorem Undisturbed.run {pipeline : Pipeline σ ε} {requests : List (Request σ)}
    {files : Directory host pipeline.generator.layout.generatedDir} {ready : σ → Prop}
    (undisturbed : Undisturbed host pipeline requests files ready)
    (unformatted : pipeline.generator.formatter = none) {request : Request σ}
    (member : request ∈ requests) (identifier : request.name.isIdentifier) (memory : ε)
    (stage : Stage) (state : σ) (isReady : ready state) :
    ∃ result memoryAfter stageAfter stateAfter events,
      compileAndRun host request.producer request.name { pipeline with memory, stage } state =
        ((result, { pipeline with memory := memoryAfter, stage := stageAfter }), stateAfter) ∧
      compileAndRun host.recorded (recording .produced request.producer) request.name
          (recorded { pipeline with memory, stage }) (state, []) =
        ((result, recorded { pipeline with memory := memoryAfter, stage := stageAfter }),
          (stateAfter, events)) ∧
      ready stateAfter ∧
      files.held stateAfter =
        stored (sourceEntry request.name) (textsOf events) (files.held state) := by
  obtain ⟨events, equal, ran⟩ := follows_compileAndRun host request.producer request.name
    { pipeline with memory, stage } state []
  obtain ⟨memoryAfter, stageAfter, after_eq⟩ := ran.parts
  rcases plain : compileAndRun host request.producer request.name
    { pipeline with memory, stage } state with ⟨⟨result, after⟩, stateAfter⟩
  rw [plain] at equal after_eq
  dsimp only at after_eq
  subst after_eq
  have moved := (works_compileAndRun (undisturbed.work request member).recorded
    (undisturbed.moves_generate unformatted member identifier)
    (recorded { pipeline with memory, stage }) ⟨memory, stage, rfl⟩ (state, [])).2 isReady
  rw [equal] at moved
  obtain ⟨added, events_eq, isReady, held⟩ := moved
  obtain rfl : events = added := by simpa using events_eq
  exact ⟨result, memoryAfter, stageAfter, stateAfter, events, rfl, equal, isReady, held⟩

/-- The host after the runs of a pipeline, one after the other. -/
def leave (host : Host σ) : List (Request σ) → Pipeline σ ε → σ → σ
  | [], _, state => state
  | request :: requests, pipeline, state =>
      let ((_, after), stateAfter) :=
        compileAndRun host request.producer request.name pipeline state
      leave host requests after stateAfter

/-- What a directory holds after some runs that write their texts to it. -/
def storedBy (runs : List (Request σ × Visit)) (held : String → Option ByteArray) :
    String → Option ByteArray :=
  runs.foldl (fun held run => stored (sourceEntry run.1.name) (textsOf run.2.events) held) held

/-- The texts that producers gave for an artifact in some runs, in order. -/
def textsFor (name : ArtifactName) (runs : List (Request σ × Visit)) : List String :=
  runs.flatMap fun run => if run.1.name = name then textsOf run.2.events else []

theorem storedBy_apply (name : ArtifactName) (runs : List (Request σ × Visit))
    (held : String → Option ByteArray) :
    storedBy runs held (sourceEntry name) =
      match (textsFor name runs).getLast? with
      | some text => some text.toUTF8
      | none => held (sourceEntry name) := by
  induction runs generalizing held with
  | nil => rfl
  | cons run runs ih =>
      have texts : textsFor name (run :: runs) =
          (if run.1.name = name then textsOf run.2.events else []) ++ textsFor name runs :=
        List.flatMap_cons
      refine (ih _).trans ?_
      rw [texts, List.getLast?_append]
      cases (textsFor name runs).getLast? with
      | some text => rfl
      | none =>
          by_cases same : run.1.name = name
          · subst same
            rw [if_pos rfl]
            exact stored_self ..
          · rw [if_neg same]
            exact stored_other (sourceEntry_injective.ne (Ne.symm same)) ..

theorem Undisturbed.leave_held {pipeline : Pipeline σ ε} {requests : List (Request σ)}
    {files : Directory host pipeline.generator.layout.generatedDir} {ready : σ → Prop}
    (undisturbed : Undisturbed host pipeline requests files ready)
    (unformatted : pipeline.generator.formatter = none)
    (identifiers : ∀ request ∈ requests, request.name.isIdentifier) {later : List (Request σ)}
    (among : later ⊆ requests) (memory : ε) (stage : Stage) (state : σ) (isReady : ready state) :
    files.held (leave host later { pipeline with memory, stage } state) =
      storedBy (later.zip (observe host later (recorded { pipeline with memory, stage }) state))
        (files.held state) := by
  induction later generalizing memory stage state with
  | nil => rfl
  | cons request later ih =>
      have member := among List.mem_cons_self
      obtain ⟨result, memoryAfter, stageAfter, stateAfter, events, plain, watched, isReady, held⟩ :=
        undisturbed.run unformatted member (identifiers request member) memory stage state isReady
      have behind := ih (List.subset_of_cons_subset among) memoryAfter stageAfter stateAfter isReady
      rw [held] at behind
      simp only [leave, observe, plain, watched]
      exact behind

/-- After any sequence of runs without a formatter, where nothing else writes to the directory of
generated sources, the source of each artifact is the text that its producer gave last, even if the
run came to nothing after that. Where no producer gave a text for an artifact, its source is as it
was before. No run changes the source of another artifact, and the runs that are watched for these
texts go as they do unwatched. -/
theorem leave_holds_last_texts {pipeline : Pipeline σ ε} {requests : List (Request σ)}
    {files : Directory host pipeline.generator.layout.generatedDir} {ready : σ → Prop}
    (undisturbed : Undisturbed host pipeline requests files ready)
    (unformatted : pipeline.generator.formatter = none)
    (identifiers : ∀ request ∈ requests, request.name.isIdentifier) {state : σ}
    (isReady : ready state) :
    (∀ name, files.held (leave host requests pipeline state) (sourceEntry name) =
      match (textsFor name (requests.zip
          (observe host requests pipeline.recorded state))).getLast? with
      | some text => some text.toUTF8
      | none => files.held state (sourceEntry name)) ∧
    (∀ request ∈ requests, ∀ memory stage before, ready before → ∀ other, other ≠ request.name →
      files.held (compileAndRun host request.producer request.name
          { pipeline with memory, stage } before).2 (sourceEntry other) =
        files.held before (sourceEntry other)) ∧
    (observe host requests pipeline.recorded state).map (fun visit => (visit.result, visit.stage)) =
      history host requests pipeline state := by
  refine ⟨fun name => ?_, fun request member memory stage before isReady other differs => ?_,
    (observe_told host pipeline requests state).2⟩
  · have held := undisturbed.leave_held unformatted identifiers (List.Subset.refl requests)
      pipeline.memory pipeline.stage state isReady
    exact (congrFun held _).trans (storedBy_apply name _ _)
  · obtain ⟨_, _, _, stateAfter, events, plain, -, -, held⟩ :=
      undisturbed.run unformatted member (identifiers request member) memory stage before isReady
    rw [plain, held]
    exact stored_other (sourceEntry_injective.ne differs) _ _

end Pipeline

/-- A time, and the files under their paths. -/
abbrev Shelf := Nat × (Path → Option ByteArray)

/-- A host that keeps files under paths, and has no directory that anything could be built in. -/
def Host.shelf : Host Shelf :=
  { Host.endless.beside with
    createDirectories := fun _ => pure (.ok ())
    writeText := fun path text state =>
      (.ok (), (state.1, Function.update state.2 path (some text.toUTF8))) }

/-- The files of one directory of the shelf. -/
def Directory.ofShelf : Directory Host.shelf "generated" where
  held state entry := state.2 ("generated/" ++ entry)
  held_create _ := rfl
  held_write entry text state after isEntry written := by
    have relative : Path.isAbsolute entry = false := by
      obtain ⟨-, -, -, noSeparator⟩ := isEntry
      unfold Path.isAbsolute
      split
      · rename_i characters
        simp [characters] at noSeparator
      · rfl
    have joined : Path.join "generated" entry = "generated/" ++ entry := by
      simp only [Path.join, relative]
      rfl
    have injective : Function.Injective fun entry : String => "generated/" ++ entry :=
      fun first second same => (String.append_right_inj "generated/").mp same
    obtain ⟨-, rfl⟩ := Prod.mk.inj written
    rw [joined]
    exact Function.update_comp_eq_of_injective state.2 injective entry (some text.toUTF8)

namespace Pipeline

/-- A pipeline that works on the shelf. -/
def onShelf : Pipeline Shelf Unit where
  generator := ⟨⟨".", ".", "generated", "."⟩, none⟩
  builder := { root := ".", program := "make" }
  executor _ _ := pure (.ok (), ())
  memory := ()

/-- Two texts for an artifact, one for another, and none. -/
def shelfRequests : List (Request Shelf) :=
  [("t1", .ok "a long text"), ("t1", .ok "text"), ("q2", .ok "other"), ("t1", .error ["none"])].map
    fun (name, answer) => ⟨fun state => (answer, state), ⟨name⟩⟩

/-- The second text for the artifact stays, though no build succeeds and a producer fails later. -/
theorem leave_holds_second_text :
    (leave Host.shelf shelfRequests onShelf (0, fun _ => none)).2 "generated/t1.cpp" =
      some "text".toUTF8 := by
  let ready : Shelf → Prop := fun _ => True
  have stays {α : Type} (answer : α) : Moves (Leaves Directory.ofShelf ready) (pure answer) :=
    fun _ _ => ⟨trivial, rfl⟩
  have undisturbed : Undisturbed Host.shelf onShelf shelfRequests Directory.ofShelf ready :=
    { create := fun state _ => ⟨state, trivial, rfl⟩
      write := fun _ _ _ _ _ => ⟨_, trivial, rfl⟩
      produce := by
        intro request member
        obtain ⟨⟨name, answer⟩, -, rfl⟩ := List.mem_map.mp member
        exact stays answer
      work := fun request _ =>
        { build :=
            { log := fun _ => stays ()
              pause := fun _ _ _ => ⟨trivial, rfl⟩
              spawn := fun _ _ => ⟨trivial, rfl⟩
              poll := fun _ _ _ => ⟨trivial, rfl⟩
              wait := fun _ _ _ => ⟨trivial, rfl⟩
              killGroup := fun _ _ _ => ⟨trivial, rfl⟩ }
          execute := fun _ => stays _
          tell := ⟨fun _ _ => stays (), fun _ _ _ => stays (), fun _ _ _ => stays ()⟩ } }
  have start : ready (0, fun _ => none) := trivial
  obtain ⟨texts, -⟩ := leave_holds_last_texts undisturbed rfl (by decide) start
  have last : (textsFor ⟨"t1"⟩ (shelfRequests.zip
      (observe Host.shelf shelfRequests onShelf.recorded (0, fun _ => none)))).getLast? =
        some "text" := by decide +kernel
  have held := texts ⟨"t1"⟩
  rw [last] at held
  exact held

end Pipeline

end QueryFoundry
