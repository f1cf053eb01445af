import QueryFoundry.Json.Reader
import QueryFoundry.Proofs.CommandResults
import QueryFoundry.Proofs.RunEffects

/-!
# What reaches the standard output

The standard output belongs to the program, but the tools that it starts write to it, too, unless
what they say is thrown away. A command that prints JSON prints one object and nothing else, and the
only tool that is heard before it is the formatter.
-/

namespace QueryFoundry

variable {σ : Type}

/-- A tool that is heard: it was started, and what it writes to the standard output is not thrown
away. -/
def Event.heard? : Event → Option (Command × Child)
  | spawned command (.ok child) => if command.quiet then none else some (command, child)
  | _ => none

def heard (events : List Event) : List (Command × Child) :=
  events.filterMap Event.heard?

/-- What reaches the standard output with an event, where the tools that are heard say something. -/
def Event.output (said : Command × Child → String) : Event → String
  | printed text => text
  | event => event.heard?.elim "" said

/-- What reaches the standard output with some events, in order. -/
def output (said : Command × Child → String) (events : List Event) : String :=
  String.join (events.map (Event.output said))

theorem output_concat (said : Command × Child → String) (events : List Event) (event : Event) :
    output said (events ++ [event]) = output said events ++ event.output said := by
  simp [output]

/-- As long as the program prints nothing, it is only the tools that are heard. -/
theorem output_eq_of_unprinted (said : Command × Child → String) {events : List Event}
    (unprinted : ∀ text, .printed text ∉ events) :
    output said events = String.join ((heard events).map said) := by
  induction events with
  | nil => rfl
  | cons event rest ih =>
      have restTold := ih fun text member => unprinted text (List.mem_cons_of_mem _ member)
      have told : event.output said = event.heard?.elim "" said := by
        cases event with
        | printed text => exact absurd List.mem_cons_self (unprinted text)
        | _ => rfl
      rw [output, List.map_cons, String.join_cons, ← output, restTold, told, heard, heard,
        List.filterMap_cons]
      cases event.heard? with
      | none => simp
      | some tool => simp

namespace CommandLine

/-- A formatter as it is started on a file. -/
def IsFormatting (command : Command) : Prop :=
  ∃ (formatter : Formatter) (path : Path),
    command = Supervision.started (formatter.command path) formatter.timeout

/-- Nothing is printed, and no tool is heard but a formatter where a command formats. -/
def KeepsSilent (formats : Prop) : Event → Prop
  | .printed _ => False
  | .spawned command _ => command.quiet = true ∨ formats ∧ IsFormatting command
  | _ => True

theorem isFormatting_of_mem_heard {formats : Prop} {events : List Event}
    (silent : ∀ event ∈ events, KeepsSilent formats event) {tool : Command × Child}
    (member : tool ∈ heard events) : formats ∧ IsFormatting tool.1 := by
  obtain ⟨event, among, isHeard⟩ := List.mem_filterMap.mp member
  have silent := silent event among
  cases event with
  | spawned command answer =>
      cases answer with
      | error error => cases isHeard
      | ok child =>
          obtain ⟨loud, rfl⟩ : command.quiet = false ∧ (command, child) = tool := by
            simpa [Event.heard?] using isHeard
          exact silent.resolve_left (by simp [loud])
  | _ => cases isHeard

/-- A command that prints JSON keeps silent until it tells what came of it. -/
theorem ends_silently (host : Host σ) {invocation : Invocation}
    (isCommand : invocation.action.IsCommand) (json : invocation.json = true)
    (state : σ × List Event) :
    Ends (Adds (KeepsSilent (Formats host.recorded invocation state))) host.recorded true state
      (perform host.recorded invocation state) := by
  let Silent := Adds (σ := σ) (KeepsSilent (Formats host.recorded invocation state))
  have works : host.recorded.WorksIn Silent :=
    Adds.worksIn (fun event isWork => by cases event <;> trivial) host
  have loads : host.recorded.loader.MovesIn Silent :=
    Adds.loader (fun event isLoading => by cases event <;> trivial)
      host
  have starts : StartsIn Silent host.recorded (Formats host.recorded invocation state) :=
    ⟨fun formats formatter path => Adds.spawn (fun _ => .inr ⟨formats, formatter, path, rfl⟩) host,
      fun _ _ => Adds.spawn (fun _ => .inl rfl) host⟩
  rw [← json]
  refine (commandCourse_perform works.log isCommand (fun plain => ?_) state).ends works starts loads
  rw [json] at plain
  cases plain

theorem IsTelling.prints_json {host : Host σ} {telling : StateM (σ × List Event) Unit}
    (isTelling : IsTelling host.recorded true telling) (state : σ × List Event) :
    ∃ line, (telling state).2.2 = state.2 ++ [.printed line] ∧ IsJsonLine line := by
  cases isTelling with
  | generated name path => exact ⟨_, rfl, .compact _⟩
  | built name elapsed => exact ⟨_, rfl, .compact _⟩
  | ran report result => exact ⟨_, rfl, .pretty _⟩

theorem formats_of_recorded {host : Host σ} {invocation : Invocation} {state : σ}
    {events : List Event} (formats : Formats host.recorded invocation (state, events)) :
    Formats host invocation state := by
  obtain ⟨notBuild, settings, _, loads, enabled⟩ := formats
  obtain ⟨_, loaded, loads, rfl, _⟩ :=
    (Settings.paired_load host.plainly invocation).exists_eq_of_second rfl loads
  exact ⟨notBuild, _, loaded, loads, enabled⟩

/-- What reaches the standard output when a command that prints JSON succeeds: one JSON object,
behind what the tools say that are heard. These are formatters, and there are none unless the
settings ask for one. The build tool is not heard, whatever it says. -/
theorem output_perform_json {invocation : Invocation} (isCommand : invocation.action.IsCommand)
    (json : invocation.json = true) {host : Host σ} {state : σ}
    (succeeds : (perform host.recorded invocation (state, [])).1 = .ok ()) :
    let events := (perform host.recorded invocation (state, [])).2.2
    (∀ tool ∈ heard events, Formats host invocation state ∧ IsFormatting tool.1) ∧
    ∃ line, IsJsonLine line ∧
      ∀ said, output said events = String.join ((heard events).map said) ++ line := by
  have ends := ends_silently host isCommand json (state, [])
  rcases performed : perform host.recorded invocation (state, []) with ⟨answer, after⟩
  rw [performed] at ends succeeds
  cases ends with
  | failed => cases succeeds
  | @told telling done moved isTelling =>
      obtain ⟨added, events_eq, silent⟩ := moved
      obtain ⟨line, told_eq, isJsonLine⟩ := isTelling.prints_json done
      have heard_eq : heard (telling done).2.2 = heard added := by
        rw [told_eq, events_eq]
        simp [heard, Event.heard?]
      dsimp only
      refine ⟨fun tool member => ?_, line, isJsonLine, fun said => ?_⟩
      · rw [heard_eq] at member
        obtain ⟨formats, isFormatting⟩ := isFormatting_of_mem_heard silent member
        exact ⟨formats_of_recorded formats, isFormatting⟩
      · have unprinted (text : String) : .printed text ∉ added := fun member => silent _ member
        rw [heard_eq, told_eq, events_eq, List.nil_append, output_concat,
          output_eq_of_unprinted said unprinted]
        rfl

/-- The command that generates an artifact, with JSON output and a formatter. -/
def formattingInvocation : Invocation :=
  { action := .generate ⟨"t1"⟩ "t1.query" false, json := true }

def formattingSettings : Settings := ⟨"/", {}, true⟩

/-- In the workshop the command succeeds, and its formatter is heard before it prints its object. -/
theorem perform_formattingInvocation :
    ∃ program : Path,
      let formatter : Formatter := ⟨program, "llvm", none⟩
      let path := formattingSettings.layout.sourcePath "t1"
      perform Host.workshop.recorded formattingInvocation (0, []) =
        (.ok (), (0, [.textRead "/querygen.toml" (.ok ""),
          .captured (Tool.versionCommand program) (.error (.os 2)), .textRead "t1.query" (.ok ""),
          .directoriesCreated formattingSettings.layout.generatedDir (.ok ()),
          .textWritten path "" (.ok ()), .spawned (formatter.command path) (.ok ⟨1⟩),
          .waited ⟨1⟩ (.ok (.exited 0)), .printed (generatedText true ⟨"t1"⟩ path ++ "\n")])) := by
  obtain ⟨program, found⟩ := Option.isSome_iff_exists.mp (Tool.find?_workshop "clang-format" 0)
  refine ⟨program, ?_⟩
  let noticed : List Event := [.textRead "/querygen.toml" (.ok "")]
  have loads : Settings.load Host.workshop.recorded formattingInvocation (0, []) =
      (.ok formattingSettings, (0, noticed)) := rfl
  have resolves : Tool.resolve Host.workshop.recorded .formatting "formatter" "clang-format"
      (0, noticed) = (.ok program,
        (0, noticed ++ [.captured (Tool.versionCommand program) (.error (.os 2))])) := by
    have found : Tool.find? Host.workshop.recorded (0, noticed) "clang-format" = some program :=
      found
    rw [Tool.resolve, bind_of_eq (Tool.find_eq ..), found]
    rfl
  have formats : Formatter.ofConfig Host.workshop.recorded formattingSettings.config.format
      (0, noticed) = (.ok (some ⟨program, "llvm", none⟩), _) := bind_of_eq resolves _
  have equips : SourceGenerator.ofConfig Host.workshop.recorded formattingSettings.layout
      formattingSettings.config (0, noticed) =
        (.ok ⟨formattingSettings.layout, some ⟨program, "llvm", none⟩⟩, _) := bind_of_eq formats _
  exact (bind_of_eq loads _).trans (bind_of_eq equips _)

/-- With a formatter that says nothing, one JSON object reaches the standard output. -/
theorem isJsonLine_output_silent_formatter :
    IsJsonLine (output (fun _ => "")
      (perform Host.workshop.recorded formattingInvocation (0, [])).2.2) := by
  obtain ⟨program, performed⟩ := perform_formattingInvocation
  have succeeds : (perform Host.workshop.recorded formattingInvocation (0, [])).1 = .ok () :=
    congrArg Prod.fst performed
  obtain ⟨-, line, isJsonLine, reaches⟩ :=
    @output_perform_json _ formattingInvocation trivial rfl _ _ succeeds
  rw [reaches, performed]
  change IsJsonLine ("" ++ line)
  rw [String.empty_append]
  exact isJsonLine

theorem not_isJsonLine_formatted (rest : String) :
    ¬IsJsonLine ("formatted\n" ++ rest) ∧ Json.parse? ("formatted\n" ++ rest) = none := by
  refine ⟨fun isJsonLine => ?_, ?_⟩
  · have first := isJsonLine.head?_eq
    simp [String.toList_append] at first
  · rw [Json.parse?, String.toList_append]
    rfl

/-- With a formatter that says something, it is no JSON value. -/
theorem not_isJsonLine_output_loud_formatter :
    let (answer, after) := perform Host.workshop.recorded formattingInvocation (0, [])
    let text := output (fun _ => "formatted\n") after.2
    answer = .ok () ∧ ¬IsJsonLine text ∧ Json.parse? text = none := by
  obtain ⟨program, performed⟩ := perform_formattingInvocation
  rw [performed]
  let line := generatedText true ⟨"t1"⟩ (formattingSettings.layout.sourcePath "t1") ++ "\n"
  exact ⟨rfl, not_isJsonLine_formatted line⟩

end CommandLine

end QueryFoundry
