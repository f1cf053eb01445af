import QueryFoundry.Proofs.FileTrees
import QueryFoundry.Sandbox.Machine

/-!
# The streams of the machine

Nothing is lost of what was written to a stream of the in-memory machine. Only a request to write
says something to a stream, and only behind what is there already; all other requests leave every
stream as it is. So it is enough to look at the places where a stream is written to, and a whole run
of the machine follows by induction on its steps.
-/

namespace QueryFoundry.Sandbox.Machine

open Text (Octets)

/-- What was written to a stream stays, and the streams of the program and its children are the same
ones. -/
structure Extends (before after : Machine) : Prop where
  outputStream_eq : after.outputStream = before.outputStream
  errorStream_eq : after.errorStream = before.errorStream
  lookup : ∀ {stream content}, before.streams.lookup stream = some content →
    ∃ rest, after.streams.lookup stream = some (content ++ rest)

/-- The machine after an effect, where there is one, extends the machine before it. -/
def Effect.Extends (before : Machine) : Effect → Prop
  | .answer _ after => before.Extends after
  | .wait => True

theorem lookup_writeStream (machine : Machine) (stream other : Nat) (data : Octets) :
    (machine.writeStream stream data).streams.lookup other =
      (machine.streams.lookup other).map fun content =>
        if other = stream then content ++ data else content := by
  refine (lookup_map_update machine.streams stream other (· ++ data)).trans ?_
  simp only [beq_iff_eq]

variable {machine between after : Machine}

namespace Extends

theorem refl (machine : Machine) : machine.Extends machine where
  outputStream_eq := rfl
  errorStream_eq := rfl
  lookup written := ⟨"", by rw [written, String.append_empty]⟩

theorem trans (first : machine.Extends between) (second : between.Extends after) :
    machine.Extends after where
  outputStream_eq := second.outputStream_eq.trans first.outputStream_eq
  errorStream_eq := second.errorStream_eq.trans first.errorStream_eq
  lookup written := by
    obtain ⟨front, written⟩ := first.lookup written
    obtain ⟨back, written⟩ := second.lookup written
    exact ⟨front ++ back, by rw [written, String.append_assoc]⟩

instance : IsPreorder Machine Extends where
  refl := refl
  trans _ _ _ := trans

theorem of_streams_eq (streams : after.streams = machine.streams)
    (output : after.outputStream = machine.outputStream)
    (error : after.errorStream = machine.errorStream) : machine.Extends after where
  outputStream_eq := output
  errorStream_eq := error
  lookup written := ⟨"", by rw [streams, written, String.append_empty]⟩

theorem writeStream (machine : Machine) (stream : Nat) (data : Octets) :
    machine.Extends (machine.writeStream stream data) where
  outputStream_eq := rfl
  errorStream_eq := rfl
  lookup {other content} written := by
    have changed := lookup_writeStream machine stream other data
    rw [written] at changed
    by_cases same : other = stream
    · exact ⟨data, changed.trans (congrArg some (if_pos same))⟩
    · exact ⟨"", changed.trans (congrArg some ((if_neg same).trans String.append_empty.symm))⟩

theorem addStream (machine : Machine) : machine.Extends machine.addStream.2 where
  outputStream_eq := rfl
  errorStream_eq := rfl
  lookup {other content} written := by
    refine ⟨"", ?_⟩
    simp [Machine.addStream, List.lookup_append, written]

end Extends

theorem extends_endProcess (process : Process) (status : WaitStatus) (time : Nat) :
    machine.Extends (machine.endProcess process status time) :=
  .of_streams_eq rfl rfl rfl

theorem extends_deliver (machine : Machine) (process : Process) (signal time : Nat) :
    machine.Extends (machine.deliver process signal time) := by
  fun_cases deliver machine process signal time
  all_goals exact .of_streams_eq rfl rfl rfl

theorem extends_deliverAll (machine : Machine) (receivers : List Process) (signal time : Nat) :
    machine.Extends (machine.deliverAll receivers signal time) := by
  induction receivers generalizing machine with
  | nil => exact .refl machine
  | cons receiver receivers ih =>
      refine Extends.trans ?_ (ih _)
      dsimp only
      split
      · exact extends_deliver ..
      · exact .refl _

theorem extends_readOpenFile (id : Nat) (file : OpenFile) (limit time : Nat) :
    (machine.readOpenFile id file limit time).Extends machine := by
  unfold readOpenFile
  dsimp only
  repeat' split
  all_goals first
    | exact trivial
    | exact Extends.of_streams_eq rfl rfl rfl

/-- Only a stream is written to as one. -/
theorem extends_writeOpenFile {id : Nat} {file : OpenFile} {data : Octets} {time : Nat}
    (writes : machine.writeOpenFile id file data time = .ok after) : machine.Extends after := by
  unfold writeOpenFile at writes
  dsimp only at writes
  repeat' split at writes
  all_goals cases writes
  all_goals first
    | exact .writeStream ..
    | exact .of_streams_eq rfl rfl rfl

theorem extends_serveOpen (process : Process) (path : Octets) (mode : OpenMode) (time : Nat) :
    (machine.serveOpen process path mode time).Extends machine := by
  unfold serveOpen
  dsimp only
  repeat' split
  all_goals exact Extends.of_streams_eq rfl rfl rfl

theorem extends_serveExecute (process : Process) (path : Octets) (arguments : List Octets)
    (environment : Environment) :
    (machine.serveExecute process path arguments environment).Extends machine := by
  unfold serveExecute
  split
  · exact Extends.refl _
  · exact Extends.of_streams_eq rfl rfl rfl

theorem extends_serveAwait (process : Process) (child : Option Nat) (blocks : Bool) :
    (machine.serveAwait process child blocks).Extends machine := by
  unfold serveAwait
  dsimp only
  repeat' split
  all_goals first
    | exact trivial
    | exact Extends.of_streams_eq rfl rfl rfl

theorem extends_treeEffect (change : Except IoError FileTree) :
    (machine.treeEffect change).Extends machine := by
  cases change with
  | error error => exact Extends.refl machine
  | ok tree => exact Extends.of_streams_eq rfl rfl rfl

theorem extends_serveStatus (process : Process) (location : Location) (entry : Entry) :
    (machine.serveStatus process location entry).Extends machine := by
  unfold serveStatus
  dsimp only
  repeat' split
  all_goals exact Extends.refl machine

theorem extends_serveSeek (process : Process) (descriptor : Nat) (distance : Int)
    (origin : SeekOrigin) :
    (machine.serveSeek process descriptor distance origin).Extends machine := by
  unfold serveSeek
  dsimp only
  repeat' split
  all_goals exact Extends.of_streams_eq rfl rfl rfl

theorem extends_serve (machine : Machine) (process : Process) (time : Nat) (request : Request) :
    (machine.serve process time request).Extends machine := by
  cases request with
  | read descriptor limit =>
      unfold serve
      dsimp only
      repeat' split
      all_goals first
        | exact Extends.refl machine
        | exact extends_readOpenFile ..
  | write descriptor data =>
      unfold serve
      dsimp only
      split
      · exact Extends.refl machine
      · split
        case h_1 written writes => exact extends_writeOpenFile writes
        case h_2 error refuses =>
            repeat' split
            all_goals first
              | exact Extends.refl machine
              | exact extends_deliver ..
  | openFile path mode => exact extends_serveOpen ..
  | seek descriptor distance origin => exact extends_serveSeek ..
  | status path =>
      unfold serve
      dsimp only
      repeat' split
      all_goals first
        | exact Extends.refl machine
        | exact extends_serveStatus ..
  | createDirectory path => exact extends_treeEffect _
  | removeFile path => exact extends_treeEffect _
  | removeDirectory path => exact extends_treeEffect _
  | rename source target => exact extends_treeEffect _
  | setTime path changed => exact extends_treeEffect _
  | setExecutable path executable => exact extends_treeEffect _
  | awaitChild child blocks => exact extends_serveAwait ..
  | sendSignal target signal =>
      unfold serve
      dsimp only
      split
      · exact Extends.refl machine
      · exact extends_deliverAll ..
  | execute path arguments environment => exact extends_serveExecute ..
  | _ =>
      unfold serve
      dsimp only
      repeat' split
      all_goals exact Extends.of_streams_eq rfl rfl rfl

theorem extends_proceed (machine : Machine) (process : Process) (request : Request)
    (next : Reply → Task) (reply : Reply) (time : Nat) :
    machine.Extends (machine.proceed process request next reply time) := by
  unfold proceed
  repeat' split
  all_goals exact .of_streams_eq rfl rfl rfl

/-- No step takes anything from a stream. -/
theorem extends_step (machine : Machine) (process : Process) :
    machine.Extends (machine.step process) := by
  unfold step
  dsimp only
  split
  · exact extends_endProcess ..
  · exact .of_streams_eq rfl rfl rfl
  · rename_i request next _
    have served := extends_serve machine process process.readyAt request
    split
    · exact .of_streams_eq rfl rfl rfl
    · rename_i reply after answered
      rw [answered] at served
      exact served.trans (extends_proceed ..)

/-- No run does, however long it is and whatever ends it. -/
theorem extends_runWhile (goesOn : Machine → Bool) (limit : Option Nat) (fuel : Nat)
    (machine : Machine) : machine.Extends (runWhile goesOn limit fuel machine) := by
  induction fuel generalizing machine with
  | zero => exact .refl machine
  | succ fuel ih =>
      unfold runWhile
      split
      · split
        · exact .refl machine
        · split
          · exact .refl machine
          · rename_i process _ _
            have advanced : machine.Extends
                { machine.step process with clock := max machine.clock process.readyAt } :=
              (extends_step machine process).trans (.of_streams_eq rfl rfl rfl)
            exact advanced.trans (ih _)
      · exact .refl machine

theorem extends_runUntil (time : Nat) : machine.Extends (machine.runUntil time) :=
  (extends_runWhile _ _ _ machine).trans (.of_streams_eq rfl rfl rfl)

theorem extends_runTo (goesOn : Machine → Bool) : machine.Extends (machine.runTo goesOn) :=
  extends_runWhile _ _ _ machine

/-- Where nothing is to go on, no process takes a step. -/
theorem runTo_of_false {goesOn : Machine → Bool} (stops : goesOn machine = false) :
    machine.runTo goesOn = machine := by
  have unmoved (fuel : Nat) : runWhile goesOn none fuel machine = machine := by
    cases fuel with
    | zero => rfl
    | succ fuel => rw [runWhile, stops, if_neg Bool.false_ne_true]
  exact unmoved stepLimit

end QueryFoundry.Sandbox.Machine
