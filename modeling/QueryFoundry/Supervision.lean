import QueryFoundry.Host
import QueryFoundry.Text.Quoted
import QueryFoundry.ToolOutcome

/-!
# Supervision of tools

A tool is started and waited for. With a time limit it leads a process group of its own and is asked
at intervals whether it has ended; when it has not and its time is over, the whole group is killed.
-/

namespace QueryFoundry.Supervision

variable {σ : Type}

/-- The interval between two questions whether a tool has ended, in nanoseconds. -/
def pollInterval : Nat := 20000000

/-- A command in one line, its texts in quotes. -/
def describe (command : Command) : String :=
  (match command.directory with
    | none => ""
    | some directory => "cd " ++ Text.quote directory ++ " && ") ++
  " ".intercalate ((command.program :: command.arguments).map Text.quote)

/-- A started tool with the moment it was started at. -/
structure Job where
  program : Path
  child : Child
  start : Nat
deriving DecidableEq, Repr

/-- Wait for a tool without a time limit. -/
def finish (host : Host σ) (job : Job) : StateM σ (Except IoError ToolOutcome) := do
  match ← host.wait job.child with
  | .error error => return .error error
  | .ok status => return .ok (.exited status (host.elapsedSince job.start (← get)))

/-- Tell the log that a tool could not be killed. That its group is gone already is no failure. -/
def warnUnkilled (host : Host σ) (job : Job) (error : IoError) : StateM σ Unit :=
  if error = .noSuchProcess then pure ()
  else host.warn .supervision ("Failed to kill " ++ Text.quote job.program ++ ": " ++ error.message)

/-- Kill the group of a tool whose time is over and wait for the tool. -/
def expire (host : Host σ) (job : Job) : StateM σ (Except IoError ToolOutcome) := do
  match ← host.killGroup job.child with
  | .error error => warnUnkilled host job error
  | .ok () => pure ()
  match ← host.wait job.child with
  | .error error => return .error error
  | .ok _ => return .ok (.timedOut (host.elapsedSince job.start (← get)))

/-- Ask whether a tool has ended until it has or its time is over. The status is looked at before
the clock, so a tool that was seen to have ended is never killed. The clock reaches the deadline
because it moves on with each pause. -/
def watch (host : Host σ) (job : Job) (timeout : Nat) (state : σ) :
    Except IoError ToolOutcome × σ :=
  match _polled : host.poll job.child state with
  | (.error error, after) => (.error error, after)
  | (.ok (some status), after) =>
      (.ok (.exited status (host.elapsedSince job.start after)), after)
  | (.ok none, after) =>
      if timeout ≤ host.clock after - job.start then expire host job after
      else watch host job timeout (host.pause pollInterval after).2
termination_by job.start + timeout - host.clock state
decreasing_by
  have polledLater : host.clock state ≤ host.clock after := by
    simpa [_polled] using host.clock_le_poll job.child state
  have pausedLater := host.clock_add_le_pause pollInterval after
  simp only [pollInterval] at pausedLater ⊢
  omega

/-- Start a tool and wait for its end, for no longer than its time limit where it has one. An error
tells that it could not be started; a tool that ends without success is no error here. -/
def run (host : Host σ) (command : Command) (timeout : Option Duration) :
    StateM σ (Except IoError ToolOutcome) := do
  host.tellDetail .supervision ("Running " ++ describe command)
  let start := host.clock (← get)
  match ← host.spawn { command with ownGroup := timeout.isSome } with
  | .error error => return .error error
  | .ok child =>
      let job : Job := ⟨command.program, child, start⟩
      match timeout with
      | none => finish host job
      | some limit => watch host job limit.totalNanoseconds

end QueryFoundry.Supervision
