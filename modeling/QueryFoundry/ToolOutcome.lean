import QueryFoundry.Duration

/-!
# Outcomes of tools

The status word with which the operating system reports the end of a process, and how a supervised
tool ended: by itself, with a status, or killed because its time was over.
-/

namespace QueryFoundry

/-- The status word of a finished process. -/
structure WaitStatus where
  word : UInt32
deriving DecidableEq, Repr

namespace WaitStatus

/-- The status of a process that exited with a code. -/
def exited (code : UInt8) : WaitStatus := ⟨code.toUInt32 <<< 8⟩

/-- The status of a process that a signal ended. -/
def signaled (signal : UInt8) : WaitStatus := ⟨signal.toUInt32 &&& 0x7F⟩

/-- A process succeeded when its status word is zero. -/
def success (status : WaitStatus) : Bool :=
  status.word == 0

/-- The exit code of a process that ended by itself; one that a signal ended has none. -/
def exitCode? (status : WaitStatus) : Option Nat :=
  if status.word &&& 0x7F = 0 then some ((status.word >>> 8) &&& 0xFF).toNat else none

end WaitStatus

/-- How a tool ended. -/
inductive ToolOutcome where
  /-- The tool ended by itself. -/
  | exited (status : WaitStatus) (elapsed : Duration)
  /-- The time was over; the tool was killed and waited for. -/
  | timedOut (elapsed : Duration)
deriving DecidableEq, Repr

namespace ToolOutcome

/-- A tool succeeded when it ended by itself with status zero. -/
def success : ToolOutcome → Bool
  | exited status _ => status.success
  | timedOut _ => false

/-- The exit code of a tool that ended by itself and not by a signal. -/
def exitCode? : ToolOutcome → Option Nat
  | exited status _ => status.exitCode?
  | timedOut _ => none

/-- The time from the start of a tool to its end. -/
def elapsed : ToolOutcome → Duration
  | exited _ elapsed | timedOut elapsed => elapsed

end ToolOutcome

end QueryFoundry
