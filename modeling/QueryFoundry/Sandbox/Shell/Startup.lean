import QueryFoundry.Sandbox.Shell.Interpreter

/-!
# Starting shells

What a shell does with the arguments and the variables that it is started with.
-/

namespace QueryFoundry.Sandbox

open Text (Octets)

namespace Shell

/-- The depth and the number of rounds that a script may have. -/
def scriptLimit : Nat := 1000000

/-- The values of the variables that every shell starts with, whatever it is given. -/
def fixedBindings : List (Octets × Octets) := [("IFS", " \t\n"), ("OPTIND", "1")]

/-- The values of the variables that a shell starts with if it is given no others. -/
def initialBindings : List (Octets × Octets) :=
  [("PATH", standardPath), ("PS1", "# "), ("PS2", "> "), ("PS4", "+ ")]

/-- The state of a shell that starts. -/
def startState (name : Octets) (environment : Environment) : ShellState :=
  let given := environment.filter fun entry =>
    isName entry.1 && (fixedBindings.lookup entry.1).isNone
  let missing := initialBindings.filter fun entry => (given.lookup entry.1).isNone
  { name, line := 0
    bindings := given.reverse ++ missing ++ fixedBindings
    exported := (environment.filter fun entry => isName entry.1).map Prod.fst }

/-- Find out where the shell is and which process it is. A name of the working directory is kept if
it leads there. -/
def orient : Shell Unit := do
  match ← ask .processId with
  | .numbers processId parentId =>
      modify fun state => { state with processId }
      assign "PPID" (toString parentId)
  | _ => pure ()
  let physical ← perform Program.workingDirectory
  let given := (← valueOf? "PWD").getD ""
  let place (path : Octets) : Program (Option Location) := do
    return (← Program.inspect? path).map fun found => found.2.1
  let isKept := given.toList.head? == some '/' &&
    (← perform (place given)) == (← perform (place "."))
  let directory := if isKept then given else physical
  modify fun state => { state with directory }
  assignExported "PWD" directory

/-- Switch the settings of a group of letters at the start, of which one asks for a script among the
arguments. What is left of the arguments is returned. -/
def startLetters (isOn : Bool) : List Char → Bool → List Octets → Shell (Bool × List Octets)
  | [], hasScript, rest => pure (hasScript, rest)
  | 'c' :: letters, _, rest => startLetters isOn letters true rest
  | 'l' :: letters, hasScript, rest => startLetters isOn letters hasScript rest
  | 'o' :: letters, hasScript, rest => do
      switchName isOn rest.head?
      startLetters isOn letters hasScript (rest.drop 1)
  | letter :: letters, hasScript, rest => do
      switchLetter isOn letter
      startLetters isOn letters hasScript rest

/-- Switch the settings that the arguments start with. -/
def startOptions : Nat → Bool → List Octets → Shell (Bool × List Octets)
  | 0, hasScript, arguments => pure (hasScript, arguments)
  | _, hasScript, [] => pure (hasScript, [])
  | fuel + 1, hasScript, word :: rest => do
      match word.toList with
      | ['-'] | ['-', '-'] => return (hasScript, rest)
      | sign :: letters =>
          if sign == '-' || sign == '+' then
            let (hasScript, rest) ← startLetters (sign == '-') letters hasScript rest
            startOptions fuel hasScript rest
          else return (hasScript, word :: rest)
      | [] => return (hasScript, word :: rest)

/-- The text that a descriptor yields. -/
def readText (descriptor : Nat) : Shell Octets := do
  match ← perform (Program.readAll descriptor Program.readLimit []) with
  | .ok text => return text
  | .error _ => return ""

/-- Run a script. -/
def runScript (manner : Manner) (isShown : Bool) (script : Octets) : Shell Unit := do
  let _ ← runSource scriptLimit manner 0 { source := { rest := script.toList }, isShown }

/-- Give the shell its arguments. -/
def startWith (arguments : List Octets) : Shell Unit :=
  modify fun state => { state with arguments }

/-- Run the script among the arguments, behind which a name may stand for the shell. -/
def runArgument (script : Octets) (others : List Octets) : Shell Unit := do
  modify fun state => { state with name := others.headD state.name }
  startWith (others.drop 1)
  let readsMore := (← get).isOn "stdin"
  runScript { last := !readsMore } false script
  if readsMore then runScript {} true (← readText 0)

/-- Run the script in a file. -/
def runFile (path : Octets) (arguments : List Octets) : Shell Unit := do
  match ← ask (.openFile path .read) with
  | .number descriptor =>
      let text ← readText descriptor
      let _ ← ask (.close descriptor)
      modify fun state => { state with name := path }
      startWith arguments
      runScript {} true text
  | .failed error => giveUp (openFailure .input path error)
  | _ => pure ()

/-- What a shell does with its arguments: settings, then a script, the name of a file with a script,
or nothing, in which case the script is read from the input. -/
def start (arguments : List Octets) : Shell Unit := do
  orient
  let (hasScript, words) ← startOptions (arguments.length + 1) false arguments
  if (← get).isOn "interactive" then complain "can't access tty; job control turned off"
  let _ ← flush
  match words with
  | [] =>
      if hasScript then giveUp "-c requires an argument"
      switchSetting true "stdin"
      runScript {} true (← readText 0)
  | word :: rest =>
      if hasScript then runArgument word rest
      else if (← get).isOn "stdin" then
        startWith words
        runScript {} true (← readText 0)
      else runFile word rest

end Shell

/-- The shell as a program. -/
def shellProgram (arguments : List Octets) (environment : Environment) : Task :=
  let name := arguments.headD "sh"
  Shell.toTask (Shell.runTrap Shell.scriptLimit) (Shell.start (arguments.drop 1))
    (Shell.startState name environment)

end QueryFoundry.Sandbox
