import QueryFoundry.Sandbox.Shell.Parser
import QueryFoundry.Sandbox.Signal
import QueryFoundry.Sandbox.Task

/-!
# The state of a shell

The variables, arguments, functions, jobs and settings of a running shell, and the ways in which
control leaves a command early.
-/

namespace QueryFoundry.Sandbox

open Text (Octets)

namespace Shell

/-- The settings with the letters that switch them, where they have one. -/
def settingNames : List (Octets × Option Char) :=
  [("errexit", some 'e'), ("noglob", some 'f'), ("ignoreeof", some 'I'),
    ("interactive", some 'i'), ("monitor", some 'm'), ("noexec", some 'n'), ("stdin", some 's'),
    ("xtrace", some 'x'), ("verbose", some 'v'), ("vi", some 'V'), ("emacs", some 'E'),
    ("noclobber", some 'C'), ("allexport", some 'a'), ("notify", some 'b'),
    ("nounset", some 'u'), ("privileged", some 'p'), ("nolog", none), ("debug", none)]

/-- The name of the setting that a letter switches. -/
def settingOf? (letter : Char) : Option Octets :=
  (settingNames.find? fun entry => entry.2 == some letter).map Prod.fst

/-- A variable that is covered for a while: its value, if it had one, and how it was marked. -/
structure Covered where
  name : Octets
  value : Option Octets
  exported : Bool
  readonly : Bool
  /-- The settings, if it is they that are covered. -/
  settings : Option (List Octets) := none

/-- Some processes that were started together and are not waited for. -/
structure Job where
  number : Nat
  processes : List Nat
  /-- How those processes ended that are known to have ended. -/
  ended : List (Nat × WaitStatus) := []
  /-- Whether it was waited for. -/
  isAwaited : Bool := false

/-- How the last process of a job ended, if all have. -/
def Job.outcome? (job : Job) : Option WaitStatus :=
  if job.processes.all fun process => (job.ended.lookup process).isSome then
    job.processes.getLast?.bind fun process => job.ended.lookup process
  else none

end Shell

/-- A running shell. -/
structure ShellState where
  /-- The name that messages start with. -/
  name : Octets
  bindings : List (Octets × Octets)
  exported : List Octets
  readonly : List Octets := []
  arguments : List Octets := []
  /-- The number of the argument that options are looked for in next. -/
  optionIndex : Nat := 1
  /-- How much of the argument in front of that one has been looked at, if not all of it. -/
  optionOffset : Option Nat := none
  /-- The functions of the script, with what they do. -/
  functions : List (Octets × Option Shell.Command) := []
  aliases : List (Octets × Octets) := []
  /-- The texts that are part of the script, under their numbers. -/
  documents : List (Nat × Shell.Word) := []
  nextDocument : Nat := 0
  /-- The paths of programs that were found. -/
  found : List (Octets × Octets) := []
  /-- How the last command ended. -/
  status : Nat := 0
  /-- How the last command ended whose output was put into a word of the current command. -/
  substitutionStatus : Nat := 0
  processId : Nat := 0
  lastBackground : Option Nat := none
  /-- The jobs, the current one first. -/
  jobs : List Shell.Job := []
  /-- The names of the settings that are on. -/
  settings : List Octets := []
  /-- What is done on a signal; the end of the shell counts as signal zero. -/
  traps : List (Nat × Octets) := []
  /-- The signals that have arrived and for which nothing has been done. -/
  arrived : List Nat := []
  /-- The working directory, as it was reached. -/
  directory : Octets := ""
  /-- The permissions that are taken from new files. -/
  mask : Nat := 18
  /-- The line of the script that was read last. -/
  sourceLine : Nat := 1
  /-- The line of the command that messages are about. -/
  line : Nat := 1
  /-- The command of the shell that messages come from, if one is at work. -/
  speaker : Option Octets := none
  /-- What was printed and not yet written. -/
  output : Octets := ""
  /-- The next descriptor under which another one is put aside. -/
  nextSaved : Nat := 10
  /-- How the command ended that a signal has interrupted, while something is done about the signal. -/
  interrupted : Option Nat := none
  /-- The number of loops around the current command. -/
  loopDepth : Nat := 0
  /-- What the variables of the running function cover; there are none outside of functions. -/
  covered : Option (List Shell.Covered) := none

namespace ShellState

/-- What a variable is now. -/
def cover (state : ShellState) (name : Octets) : Shell.Covered :=
  { name, value := state.bindings.lookup name, exported := state.exported.contains name
    readonly := state.readonly.contains name }

/-- Put a name into a list of names or take it out. -/
def mark (names : List Octets) (name : Octets) (isIn : Bool) : List Octets :=
  let others := names.filter (· != name)
  if isIn then name :: others else others

/-- Make a variable again what it was. -/
def uncover (state : ShellState) (former : Shell.Covered) : ShellState :=
  match former.settings with
  | some settings => { state with settings }
  | none =>
      let others := state.bindings.filter (·.1 != former.name)
      { state with
        bindings := match former.value with
          | some value => (former.name, value) :: others
          | none => others
        exported := mark state.exported former.name former.exported
        readonly := mark state.readonly former.name former.readonly
        found := if former.name == "PATH" then [] else state.found }

/-- Whether a setting is on. -/
def isOn (state : ShellState) (setting : Octets) : Bool :=
  state.settings.contains setting

/-- The letters of the settings that are on. -/
def letters (state : ShellState) : Octets :=
  String.ofList (Shell.settingNames.reverse.filterMap fun (name, letter) =>
    if state.isOn name then letter else none)

end ShellState

namespace Shell

/-- How control leaves a command early. -/
inductive Escape where
  | exit (code : Nat)
  /-- A mistake ends the shell, unless it is made in a command that the shell survives. -/
  | mistake
  | leaveFunction (code : Nat)
  | leaveLoop (levels : Nat)
  | nextRound (levels : Nat)

end Shell

open Shell (Escape) in
/-- What a shell does. -/
abbrev Shell (α : Type) := ExceptT Escape (StateT ShellState Program) α

namespace Shell

/-- Do something that is no business of the shell's state. -/
def perform {α : Type} (program : Program α) : Shell α :=
  ExceptT.lift (StateT.lift program)

/-- Ask the kernel. -/
def ask (request : Request) : Shell Reply := perform (Program.ask request)

/-- Set how the last command ended. -/
def setStatus (status : Nat) : Shell Unit :=
  modify fun state => { state with status }

/-- Print a text. It is kept until the command that prints it has ended. -/
def say (text : Octets) : Shell Unit :=
  modify fun state => { state with output := state.output ++ text }

/-- Write what was printed, or tell why that fails. -/
def flush : Shell (Except IoError Unit) := do
  let text := (← get).output
  modify fun state => { state with output := "" }
  perform (Program.tryWrite 1 text)

/-- Print an error message with the name of the shell, the line and the command at work. -/
def complain (message : Octets) : Shell Unit := do
  let state ← get
  let speaker := match state.speaker with
    | some name => name ++ ": "
    | none => ""
  perform (Program.complain
    (state.name ++ ": " ++ toString state.line ++ ": " ++ speaker ++ message ++ "\n"))

/-- Give up with an error message. -/
def giveUp {α : Type} (message : Octets) : Shell α := do
  complain message
  let _ ← flush
  setStatus 2
  throw .mistake

/-- Give up because of a mistake in the script. -/
def giveUpReading {α : Type} (error : SyntaxError) : Shell α := do
  modify fun state => { state with line := error.line }
  giveUp error.message

/-- Undo something at the end of an action, however it ends. -/
def thenAlways {α : Type} (action : Shell α) (undo : Shell Unit) : Shell α := do
  let result ← try action catch escape =>
    undo
    throw escape
  undo
  return result

/-- Do something as a command of the shell, under whose name messages are printed. -/
def speakingAs {α : Type} (name : Octets) (action : Shell α) : Shell α := do
  let outer := (← get).speaker
  modify fun state => { state with speaker := some name }
  thenAlways action (modify fun state => { state with speaker := outer })

/-- The value of a variable. -/
def valueOf? (name : Octets) : Shell (Option Octets) := do
  return (← get).bindings.lookup name

/-- The number that a text of digits denotes; it is not greater than the greatest one that fits into
32 bits with a sign. -/
def plainNumber? (text : Octets) : Option Nat :=
  match text.toList with
  | [] => none
  | digits =>
      if digits.all Char.isDigit then
        let number := digits.foldl (fun value digit => value * 10 + (digit.toNat - 48)) 0
        if number < 2147483648 then some number else none
      else none

/-- The number that a text must be. -/
def requiredNumber (text : Octets) : Shell Nat := do
  match plainNumber? text with
  | some number => return number
  | none => giveUp ("Illegal number: " ++ text)

/-- Give a variable a value. Some variables tell the shell something. -/
def assign (name value : Octets) : Shell Unit := do
  let state ← get
  if state.readonly.contains name then giveUp (name ++ ": is read only")
  set { state with
    bindings := if (state.bindings.lookup name).isSome then
      state.bindings.map fun (other, old) => (other, if other == name then value else old)
      else (name, value) :: state.bindings
    exported := if state.isOn "allexport" then ShellState.mark state.exported name true
      else state.exported
    found := if name == "PATH" then [] else state.found }
  if name == "OPTIND" then
    let index ← requiredNumber value
    modify fun state => { state with optionIndex := max index 1, optionOffset := none }

/-- Mark a variable for the programs that are started. -/
def markExported (name : Octets) : Shell Unit :=
  modify fun state => { state with exported := ShellState.mark state.exported name true }

/-- Give a variable a value and mark it for the programs that are started. -/
def assignExported (name value : Octets) : Shell Unit := do
  assign name value
  markExported name

/-- Forget a variable. -/
def forget (name : Octets) : Shell Unit := do
  let state ← get
  if state.readonly.contains name then giveUp (name ++ ": is read only")
  set { state with
    bindings := state.bindings.filter (·.1 != name)
    exported := state.exported.filter (· != name)
    found := if name == "PATH" then [] else state.found }

/-- Give a variable a value until what is covered comes back. -/
def cover (name : Octets) : Shell Unit :=
  modify fun state => { state with
    covered := state.covered.map (state.cover name :: ·) }

/-- Do something with variables that come back to what they were. If it ends the shell, they are left
as they are, until something around it takes up the work. -/
def withCovers {α : Type} (action : Shell α) : Shell α := do
  let outer := (← get).covered
  modify fun state => { state with covered := some [] }
  let release : Shell Unit := modify fun state =>
    { (state.covered.getD []).foldl ShellState.uncover state with covered := outer }
  let result ← try action catch escape =>
    match escape with
    | .exit _ | .mistake =>
        modify fun state => { state with
          covered := some (state.covered.getD [] ++ outer.getD []) }
    | _ => release
    throw escape
  release
  return result

/-- The value of a parameter, if it is set; that of all arguments has its own rules. -/
def parameter? (name : Octets) : Shell (Option Octets) := do
  let state ← get
  match name with
  | "#" => return some (toString state.arguments.length)
  | "?" => return some (toString state.status)
  | "$" => return some (toString state.processId)
  | "!" => return state.lastBackground.map toString
  | "-" => return some state.letters
  | _ =>
      match name.toNat? with
      | some 0 => return some state.name
      | some number => return state.arguments[number - 1]?
      | none => valueOf? name

/-- The characters that words are split at. -/
def separators : Shell (List Char) := do
  return ((← valueOf? "IFS").getD " \t\n").toList

/-- The place of an entry in a table of some size, by which listings are sorted. -/
def tablePlace (size : Nat) (name : Octets) : Nat :=
  let characters := name.toList
  (characters.foldl (fun place character => place + character.toNat)
    ((characters.head?.map Char.toNat).getD 0 * 16)) % size

/-- The variables that programs are started with. -/
def environment : Shell Environment := do
  let state ← get
  let given := (state.bindings.filter fun entry => state.exported.contains entry.1).reverse
  return given.mergeSort fun left right => tablePlace 39 left.1 ≤ tablePlace 39 right.1

/-- The exit code that a status stands for: that of the program, or a number above 128 for a
signal. -/
def codeOf (status : WaitStatus) : Nat :=
  match status.exitCode? with
  | some code => code
  | none => 128 + (status.word &&& 0x7F).toNat

/-- Tell of a death by a signal, unless it is a usual one. -/
def tellDeath (status : WaitStatus) : Shell Unit := do
  let signal := (status.word &&& 0x7F).toNat
  if status.exitCode?.isNone && signal != 2 && signal != 13 then
    perform (Program.complain (Signal.description signal ++ "\n"))

/-- Keep the signals that have arrived. -/
def collectSignals : Shell Unit := do
  match ← ask .takeSignals with
  | .signals signals => modify fun state => { state with arrived := state.arrived ++ signals }
  | _ => pure ()

/-- Note the end of a process that belongs to a job. -/
def noteEnd (process : Nat) (status : WaitStatus) : Shell Unit :=
  modify fun state => { state with
    jobs := state.jobs.map fun job =>
      if job.processes.contains process then { job with ended := job.ended ++ [(process, status)] }
      else job }

/-- The greatest number of times that waiting is taken up again. -/
def awaitLimit : Nat := 1000000

/-- Wait for processes to their ends, of which the last one decides. Signals do not interrupt this.
A death is told of if nothing is left to wait for then. -/
def awaitAll (processes : List Nat) : Nat → List (Nat × WaitStatus) → Shell Nat
  | 0, _ => pure 127
  | fuel + 1, ended => do
      match ← ask (.awaitChild none true) with
      | .ended child status =>
          if processes.contains child then
            let known := (child, status) :: ended
            if processes.all fun process => (known.lookup process).isSome then
              tellDeath status
              return ((processes.getLast?.bind fun process => known.lookup process).map codeOf).getD 127
            else awaitAll processes fuel known
          else
            noteEnd child status
            awaitAll processes fuel ended
      | .failed (.os 4) =>
          collectSignals
          awaitAll processes fuel ended
      | _ => return 127

/-- Wait for processes to their ends, of which the last one decides. -/
def await (processes : List Nat) : Shell Nat := awaitAll processes awaitLimit []

/-- The names of a program to try: a path as it is, and a plain name in each directory. -/
def programCandidates (path : Octets) (name : Octets) : List Octets :=
  if name.toList.contains '/' then [name]
  else (path.splitOn ":").map fun directory =>
    if directory.isEmpty then name else directory ++ "/" ++ name

/-- The places that programs are looked for in, where no variable names them. -/
def standardPath : Octets := "/usr/local/sbin:/usr/local/bin:/usr/sbin:/usr/bin:/sbin:/bin"

/-- The places that programs are looked for in. -/
def searchPath : Shell Octets := do
  return (← valueOf? "PATH").getD standardPath

/-- The file of a program among some candidates, or why there is none: nothing is there, or what is
there may not be executed. -/
def firstProgram (isMissing : Bool) : List Octets → Program (Except IoError Octets)
  | [] => return .error (if isMissing then .notFound else .accessDenied)
  | candidate :: rest => do
      match ← Program.status? candidate with
      | some (.file _ true) => return .ok candidate
      | some _ => firstProgram false rest
      | none => firstProgram isMissing rest

end Shell

end QueryFoundry.Sandbox
