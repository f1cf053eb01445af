import QueryFoundry.CommandLine.Console
import QueryFoundry.Native.Loader
import QueryFoundry.Proofs.CommandEnds
import QueryFoundry.Proofs.MachineStreams
import QueryFoundry.Proofs.OctetTexts

/-!
# The streams of a workbench

Whatever is done on a workbench, nothing is lost of what was written to the streams of its machine:
not by an operation of the host that it is, and not by the code of a library. So what the program
says stays where it is said, and others can only add to it.
-/

namespace QueryFoundry

open Sandbox Text

variable {μ : Type}

/-- Nothing is lost of what was written to the streams of the machine. -/
def Workbench.Extends (before after : Workbench μ) : Prop :=
  before.machine.Extends after.machine

instance : IsPreorder (Workbench μ) Workbench.Extends where
  refl bench := .refl bench.machine
  trans _ _ _ := .trans

namespace Workbench

variable {command : Command}

theorem extends_write (stream : Machine → Nat) (text : String) :
    Moves Extends (write stream text : StateM (Workbench μ) Unit) := by
  intro bench
  change Extends bench (if _ then _ else _)
  split
  · exact Machine.Extends.refl bench.machine
  · exact Machine.Extends.writeStream bench.machine _ _

theorem extends_printError (text : String) :
    Moves Extends (printError text : StateM (Workbench μ) Unit) :=
  extends_write _ text

theorem extends_print (text : String) : Moves Extends (print text : StateM (Workbench μ) Unit) :=
  extends_write _ text

theorem ended_printError (text : String) (bench : Workbench μ) :
    (printError text bench).2.ended = bench.ended := by
  change (if _ then _ else _ : Workbench μ).ended = _
  split
  · rfl
  · rfl

/-- What the program says goes behind all that its stream of error messages holds, unless it has
ended. -/
theorem lookup_printError {bench : Workbench μ} {stream : Nat} {content : Octets} {text : String}
    (held : bench.machine.errorStream = stream)
    (written : bench.machine.streams.lookup stream = some content)
    (quiet : ∀ status, bench.ended = some status → text = "") :
    (printError text bench).2.machine.streams.lookup stream = some (content ++ toOctets text) := by
  subst held
  change (if _ then _ else _ : Workbench μ).machine.streams.lookup _ = _
  split
  · rename_i ended
    obtain ⟨status, ended⟩ := Option.isSome_iff_exists.mp ended
    rw [quiet status ended, toOctets_empty, String.append_empty, written]
  · have added := Machine.lookup_writeStream bench.machine bench.machine.errorStream
      bench.machine.errorStream (toOctets text)
    rw [written] at added
    exact added.trans (congrArg some (if_pos rfl))

theorem extends_changeTree (change : FileTree → Except IoError FileTree) :
    Moves Extends (changeTree change : StateM (Workbench μ) _) := by
  intro bench
  unfold changeTree
  split
  · exact Machine.Extends.of_streams_eq rfl rfl rfl
  · exact Machine.Extends.refl bench.machine

theorem extends_alterTree (alter : FileTree → Except IoError Unit × FileTree) :
    Moves Extends (alterTree alter : StateM (Workbench μ) _) :=
  fun _ => Machine.Extends.of_streams_eq rfl rfl rfl

theorem extends_start (command : Command) (output errors : OpenFile) :
    Moves Extends (start command output errors : StateM (Workbench μ) _) := by
  intro bench
  unfold start
  dsimp only
  repeat' split
  all_goals exact Machine.Extends.of_streams_eq rfl rfl rfl

theorem extends_reap (child : Child) : Moves Extends (reap child : StateM (Workbench μ) _) := by
  intro bench
  unfold reap
  split
  · exact Machine.Extends.refl bench.machine
  · exact Machine.Extends.of_streams_eq rfl rfl rfl

theorem extends_wait (child : Child) : Moves Extends (wait child : StateM (Workbench μ) _) := by
  intro bench
  let ran : Workbench μ := { bench with machine := bench.machine.runTo (isRunning child) }
  have runs : bench.Extends ran := Machine.extends_runTo _
  have left : (wait child bench).2 = (reap child ran).2 := by
    rcases reaped : reap child ran with ⟨_ | status, after⟩
    · simp only [wait, reaped, ran]
    · simp only [wait, reaped, ran]
  rw [left]
  exact runs.trans (extends_reap child ran)

theorem extends_killGroup (child : Child) :
    Moves Extends (killGroup child : StateM (Workbench μ) _) := by
  intro bench
  unfold killGroup
  dsimp only
  split
  · exact Machine.Extends.refl bench.machine
  · exact Machine.extends_deliverAll ..

theorem extends_capture (command : Command) :
    Moves Extends (capture command : StateM (Workbench μ) _) := by
  intro bench
  let stream := bench.machine.addStream.1
  let opened : Workbench μ := { bench with machine := bench.machine.addStream.2 }
  have opens : bench.Extends opened := .addStream bench.machine
  have starts := opens.trans (extends_start command (.stream stream) .null opened)
  rcases started : start command (.stream stream) .null opened with ⟨answer, after⟩
  replace starts : bench.Extends after := by rwa [started] at starts
  cases answer with
  | error error =>
      have left : (capture command bench).2 = after := by
        simp only [capture, stream, opened, started]
      rw [left]
      exact starts
  | ok child =>
      let goesOn (machine : Machine) : Bool := isRunning child machine || machine.isWritten stream
      let ran : Workbench μ := { after with machine := after.machine.runTo goesOn }
      have runs : after.machine.Extends (after.machine.runTo goesOn) := Machine.extends_runTo _
      have left : (capture command bench).2 = (wait child ran).2 := by
        simp only [capture, stream, opened, started, ran, goesOn]
        split
        · rename_i waited
          rw [waited]
        · rename_i waited
          rw [waited]
      rw [left]
      exact (starts.trans runs).trans (extends_wait child ran)

/-- The machine as a host for the program. -/
theorem worksIn_consoleHost (loader : ModuleLoader (Workbench μ)) (filter : CommandLine.LogFilter) :
    (CommandLine.Launch.consoleHost loader filter).WorksIn Extends where
  log entry bench := by
    change Extends bench (if _ then _ else _ : Unit × Workbench μ).2
    split
    · exact extends_printError _ bench
    · exact refl_of Extends bench
  readText path := by
    refine .bind .get fun bench => ?_
    split
    · exact .pure _
    · exact .pure _
  version path := extends_capture _
  readInput := .bind .get fun _ => .pure _
  createDirectories path := .bind .get fun _ => extends_alterTree _
  writeText path text := .bind .get fun _ => extends_changeTree _
  pause delay bench := Machine.extends_runUntil _
  poll child bench := extends_reap child bench
  wait := extends_wait
  killGroup := extends_killGroup

theorem startsIn_consoleHost (loader : ModuleLoader (Workbench μ))
    (filter : CommandLine.LogFilter) :
    CommandLine.StartsIn Extends (CommandLine.Launch.consoleHost loader filter) True where
  formatter _ _ _ := .bind .get fun _ => extends_start _ _ _
  builder _ _ := .bind .get fun _ => extends_start _ _ _

end Workbench

namespace Native

open Workbench (Extends)

theorem extends_enterMachine (bench : NativeBench) : bench.machine.Extends (enterMachine bench) :=
  .of_streams_eq rfl rfl rfl

theorem extends_leaveMachine (machine : Machine) (bench : NativeBench) :
    machine.Extends (leaveMachine machine bench).machine := by
  unfold leaveMachine
  split
  · exact .refl machine
  · exact .of_streams_eq rfl rfl rfl

theorem extends_serveHost (machine : Machine) (request : Request) :
    machine.Extends (serveHost machine request).2 := by
  unfold serveHost
  split
  · exact Machine.extends_runUntil _
  · have runs : machine.Extends (machine.runTo (isWaiting request)) := Machine.extends_runTo _
    dsimp only
    split
    · exact runs
    · rename_i process _
      have serves := Machine.extends_serve (machine.runTo (isWaiting request)) process
        (machine.runTo (isWaiting request)).clock request
      split
      · rename_i answered
        rw [answered] at serves
        exact runs.trans serves
      · exact runs

theorem extends_startChild (machine : Machine) (task : Task) :
    machine.Extends (startChild machine task).2 := by
  unfold startChild
  dsimp only
  split
  · exact .refl machine
  · exact .of_streams_eq rfl rfl rfl

/-- Native code only asks the machine for what a process may ask for. -/
theorem extends_runOnMachine (fuel : Nat) (processor : Processor) (machine : Machine) :
    machine.Extends (runOnMachine fuel processor machine).2.2 := by
  induction fuel generalizing processor machine with
  | zero => exact .refl machine
  | succ fuel ih =>
      unfold runOnMachine
      split
      · exact ih _ machine
      · exact (extends_serveHost machine _).trans (ih _ _)
      · exact (extends_startChild machine _).trans (ih _ _)
      · exact .refl machine

theorem extends_leaveCall {before left : NativeBench} (leaves : before.Extends left)
    (stop : Stop) : before.Extends (leaveCall left stop).2 := by
  cases stop <;> exact leaves

theorem extends_callNative (function : UInt64) (arguments : List UInt64) :
    Moves Extends (callNative function arguments) := by
  intro bench
  unfold callNative
  split
  · exact Machine.Extends.refl bench.machine
  · dsimp only
    split
    · exact extends_leaveCall (refl_of Extends bench) _
    · rename_i ready _
      have runs := (extends_enterMachine bench).trans (extends_runOnMachine callLimit ready _)
      exact extends_leaveCall (runs.trans (extends_leaveMachine ..)) _

theorem extends_callAll (calls : List UInt64) : Moves Extends (callAll calls) := by
  induction calls with
  | nil => exact .pure _
  | cons first rest ih => exact .bind (extends_callNative first []) fun _ => ih

/-- What is kept beside the machine may change before something is done. -/
theorem extends_set {α : Type} {bench other : NativeBench} (same : other.machine = bench.machine)
    {next : StateM NativeBench α} (goesOn : Moves Extends next) :
    bench.Extends ((set other >>= fun _ => next) bench).2 := by
  have moved : other.machine.Extends (next other).2.machine := goesOn other
  rw [same] at moved
  exact moved

theorem extends_addLibrary (path : Path) (linkage : Linkage) (units : List CompiledUnit) :
    Moves Extends (addLibrary path linkage units) := by
  intro bench
  have looked : (get : StateM NativeBench _) bench = (bench, bench) := rfl
  rw [addLibrary, bind_of_eq looked]
  cases bench.modules.image.addLibrary linkage units with
  | error error => exact Machine.Extends.refl bench.machine
  | ok added =>
      obtain ⟨image, linked, calls⟩ := added
      dsimp only
      refine extends_set ?_ ?_
      · rfl
      · exact .bind (extends_callAll calls) fun _ => .pure _

theorem extends_openLibrary (path : Path) : Moves Extends (openLibrary path) := by
  refine .bind .get fun bench => ?_
  split
  · exact .pure _
  · split
    · exact .pure _
    · exact extends_addLibrary _ _ _

theorem extends_callDeferred (handle : Option UInt64) (fuel : Nat) :
    Moves Extends (callDeferred handle fuel) := by
  induction fuel with
  | zero => exact .pure _
  | succ fuel ih =>
      intro bench
      have looked : (get : StateM NativeBench _) bench = (bench, bench) := rfl
      rw [callDeferred, bind_of_eq looked]
      dsimp only
      generalize (if bench.ended.isSome then none else
        bench.modules.image.processor.state.takeExit? handle) = taken
      cases taken with
      | none => exact Machine.Extends.refl bench.machine
      | some taken =>
          obtain ⟨call, state⟩ := taken
          dsimp only
          refine extends_set ?_ ?_
          · rfl
          · exact .bind (extends_callNative _ _) fun _ => ih

theorem extends_closeLibrary (library : Library) : Moves Extends (closeLibrary library) := by
  refine .bind .get fun bench => ?_
  split
  · exact .pure _
  · split
    · exact .pure _
    · refine .bind (extends_callAll _) fun _ => .bind (extends_callDeferred _ _) fun _ => ?_
      exact fun bench => Machine.Extends.refl bench.machine

theorem extends_finish : Moves Extends finish := by
  have keeps (change : Option WaitStatus → Option WaitStatus) :
      Moves Extends (modify fun bench : NativeBench => { bench with ended := change bench.ended }) :=
    fun bench => Machine.Extends.refl bench.machine
  refine .bind .get fun begun => .bind (keeps fun _ => none) fun _ => ?_
  refine .bind (extends_callDeferred _ _) fun _ => .bind .get fun bench => ?_
  refine .bind (.forIn (fun entry _ => ?_) _) fun _ => .bind .get fun _ =>
    .bind (extends_callAll _) fun _ => keeps fun ended => ended <|> begun.ended
  exact .bind (extends_callAll _) fun _ => .pure _

theorem extends_windDown (bench : NativeBench) :
    bench.Extends (CommandLine.Launch.windDown loader bench) := by
  rcases finishes : loader.finish bench with ⟨_, finished⟩
  have finishing : bench.Extends finished := extends_finish.of_eq finishes
  let goesOn (machine : Machine) : Bool :=
    machine.isWritten bench.machine.outputStream || machine.isWritten bench.machine.errorStream
  have runs : finished.machine.Extends (finished.machine.runTo goesOn) := Machine.extends_runTo _
  rw [CommandLine.Launch.windDown, finishes]
  exact finishing.trans runs

theorem callDeferred_eq {handle : Option UInt64} {bench : NativeBench}
    (none_deferred : bench.modules.image.processor.state.takeExit? handle = none) (fuel : Nat) :
    callDeferred handle fuel bench = ((), bench) := by
  cases fuel with
  | zero => rfl
  | succ fuel =>
      have looked : (get : StateM NativeBench _) bench = (bench, bench) := rfl
      rw [callDeferred, bind_of_eq looked]
      dsimp only
      rw [none_deferred, ite_self]
      rfl

/-- Nothing is left that goes on when the program ends: no call of what it loaded was put off, and
no process holds its streams. -/
structure IsDeserted (bench : NativeBench) : Prop where
  libraries : bench.modules.libraries = []
  deferred : bench.modules.image.processor.state.takeExit? none = none
  finishers : bench.modules.image.finishers = []
  output : bench.machine.isWritten bench.machine.outputStream = false
  errors : bench.machine.isWritten bench.machine.errorStream = false

namespace IsDeserted

variable {bench : NativeBench}

theorem finish_eq (deserted : IsDeserted bench) : finish bench = ((), bench) := by
  let begun : NativeBench := { bench with ended := none }
  have looked (bench : NativeBench) : (get : StateM NativeBench _) bench = (bench, bench) := rfl
  have undeferred : callDeferred none Executable.exitLimit begun = ((), begun) :=
    @callDeferred_eq none begun deserted.deferred _
  have begins : finish bench = (do
      callDeferred none Executable.exitLimit
      for entry in (← get).modules.libraries do
        callAll entry.2.linked.destructors
      callAll (← get).modules.image.finishers
      modify fun after => { after with ended := after.ended <|> bench.ended } :
        StateM NativeBench Unit) begun := rfl
  rw [begins, bind_of_eq undeferred, bind_of_eq (looked begun)]
  have unloaded : begun.modules.libraries = [] := deserted.libraries
  have unfinished : begun.modules.image.finishers = [] := deserted.finishers
  rw [unloaded, List.forIn_nil, pure_bind, bind_of_eq (looked begun), unfinished]
  rfl

/-- The program is then over at once. -/
theorem windDown_eq (deserted : IsDeserted bench) :
    CommandLine.Launch.windDown loader bench = bench := by
  have finishes : loader.finish bench = ((), bench) := deserted.finish_eq
  have unheld : (bench.machine.isWritten bench.machine.outputStream ||
      bench.machine.isWritten bench.machine.errorStream) = false := by
    rw [deserted.output, deserted.errors, Bool.or_false]
  rw [CommandLine.Launch.windDown, finishes]
  dsimp only
  rw [Machine.runTo_of_false unheld]

end IsDeserted

theorem extends_wordAt? (address : UInt64) (count : Nat) : Moves Extends (wordAt? address count) :=
  .bind .get fun _ => .pure _

theorem extends_callEntry (table : ModuleTable) (index : Nat) (arguments : List UInt64) :
    Moves Extends (callEntry table index arguments) := by
  refine .bind (extends_wordAt? _ _) fun word => ?_
  cases word with
  | none => exact .pure _
  | some function => exact extends_callNative function arguments

theorem extends_callInit (library : Library) (symbol : String) :
    Moves Extends (callInit library symbol) := by
  unfold callInit
  split
  · exact .pure _
  · refine .bind .get fun bench => ?_
    dsimp only
    split
    · exact .pure _
    · refine .bind (extends_callNative _ _) fun answer => ?_
      cases answer with
      | none => exact .pure _
      | some table =>
          dsimp only
          split
          · exact .pure _
          · refine .bind (extends_wordAt? _ _) fun word => ?_
            cases word with
            | none => exact .pure _
            | some version => exact .pure _

theorem movesIn_loader : loader.MovesIn Extends where
  openLibrary := extends_openLibrary
  callInit := extends_callInit
  callRun table := by
    refine .bind (extends_callEntry _ _ _) fun answer => ?_
    cases answer with
    | none => exact .pure _
    | some handle => exact .pure _
  callRowCount table handle := .bind (extends_callEntry _ _ _) fun _ => .pure _
  callFetch table handle := .bind (extends_callEntry _ _ _) fun _ => .pure _
  callRelease table handle := .bind (extends_callEntry _ _ _) fun _ => .pure _
  closeLibrary := extends_closeLibrary

end Native

end QueryFoundry
