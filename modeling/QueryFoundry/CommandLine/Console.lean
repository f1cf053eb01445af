import QueryFoundry.CommandLine.Commands
import QueryFoundry.CommandLine.Log
import QueryFoundry.Sandbox.Hosting

/-!
# The program on an in-memory machine

The program is run like a process of the machine: with an input and variables of its own, and its
output and error messages collected until nobody can add to them.
-/

namespace QueryFoundry.CommandLine

open Sandbox
open Text (Octets toOctets)

variable {μ : Type}

/-- What can be seen of a run of the program from outside. -/
structure Transcript where
  status : WaitStatus
  output : Octets
  errors : Octets
deriving DecidableEq, Repr

/-- How the program is started. -/
structure Launch where
  arguments : List String
  input : Octets := ""
  /-- Variables that the program sees besides those of the machine, or instead. -/
  bindings : List (String × String) := []
deriving DecidableEq, Repr

namespace Launch

/-- The variable that names a configuration file. -/
def configVariable : String := "QUERYGEN_CONFIG"

/-- The variable that names the directories which programs are looked for in. -/
def pathVariable : String := "PATH"

/-- The value of a variable that the program is started with. -/
def valueOf? (launch : Launch) (name : String) : Option String :=
  (launch.bindings.reverse.find? (·.1 == name)).map Prod.snd

/-- The variable that holds a filter for the log. -/
def filterVariable : String := "RUST_LOG"

/-- The variables of the program. -/
def environment (launch : Launch) (inherited : Environment) : Environment :=
  launch.bindings.foldl (fun environment entry =>
    let name := toOctets entry.1
    environment.filter (·.1 != name) ++ [(name, toOctets entry.2)]) inherited

/-- The machine as the program finds it: what is printed goes to streams of its own. -/
def prepare (launch : Launch) (bench : Workbench μ) : Workbench μ :=
  let (output, first) := bench.machine.addStream
  let (errors, second) := first.addStream
  { bench with
    machine := { second with outputStream := output, errorStream := errors }
    input := launch.input
    ended := none
    environment := launch.environment bench.environment
    searchPath :=
      match launch.valueOf? pathVariable with
      | some path => path.splitOn ":"
      | none => bench.searchPath }

/-- The machine as a host for the program: messages that the filter lets through are told among the
error messages. -/
def consoleHost (loader : ModuleLoader (Workbench μ)) (filter : LogFilter) :
    Host (Workbench μ) :=
  { Workbench.host loader with
    log := fun entry bench =>
      if filter.lets entry.severity entry.origin then
        Workbench.printError (LogLine.render bench.machine.clock entry) bench
      else ((), bench) }

/-- Say which directives of a filter are ignored. -/
def complainAbout (faults : List (String × LogFault)) : StateM (Workbench μ) Unit :=
  Workbench.printError (String.join (faults.map fun (directive, fault) =>
    "ignoring \x60" ++ directive ++ "\x60: " ++ fault.message ++ "\n"))

/-- The filter for the log, which also lets warnings through, or details where they are wanted. It is
only read where something is to be done; what cannot be understood is then said. -/
def openLog (launch : Launch) (demand : Except UsageError Demand) :
    StateM (Workbench μ) LogFilter := do
  match demand with
  | .ok (.invoke invocation) =>
      let (filter, faults) := LogFilter.read ((launch.valueOf? filterVariable).getD "")
      complainAbout faults
      let severity : Severity := if invocation.verbose then .detail else .warning
      return filter.add { origin := none, level := LogFilter.levelOf severity }
  | _ => return {}

/-- What goes on when the program has said all that it says: what it loaded comes to its end, and
the processes that it started go on until none of them holds its output. -/
def windDown (loader : ModuleLoader (Workbench μ)) (bench : Workbench μ) : Workbench μ :=
  let (_, finished) := loader.finish bench
  { finished with
    machine := finished.machine.runTo fun machine =>
      machine.isWritten bench.machine.outputStream || machine.isWritten bench.machine.errorStream }

/-- Run the program to its end, and the machine until nobody holds the output of the program. -/
def run (loader : ModuleLoader (Workbench μ)) (launch : Launch) :
    StateM (Workbench μ) Transcript := fun bench =>
  let prepared := launch.prepare bench
  let demand := Demand.read (launch.valueOf? configVariable) launch.arguments
  let (filter, begun) := launch.openLog demand prepared
  let (ending, after) := fulfil (consoleHost loader filter) demand begun
  let (_, told) := Workbench.printError ending.complaint after
  let left := windDown loader told
  (⟨left.ended.getD ending.status, left.machine.streamContent prepared.machine.outputStream,
      left.machine.streamContent prepared.machine.errorStream⟩,
    { bench with
      machine := { left.machine with
        outputStream := bench.machine.outputStream, errorStream := bench.machine.errorStream } })

end Launch

end QueryFoundry.CommandLine
