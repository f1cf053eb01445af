import QueryFoundry.Sandbox.Condition
import QueryFoundry.Sandbox.Printf
import QueryFoundry.Sandbox.Shell.Fields

/-!
# Commands of the shell itself

The commands that a shell carries out without starting a program and without reading more of a
script.
-/

namespace QueryFoundry.Sandbox.Shell

open Text (Octets)

/-- A command of the shell: what it does with its arguments, and how it ends. -/
abbrev Builtin := List Octets → Shell Nat

/-- Read the letters of an option, of which some take an argument. -/
def optionLetters (letters withArgument : List Char) : Nat → List Char → List Octets →
    Shell (List (Char × Octets) × List Octets)
  | 0, _, rest => pure ([], rest)
  | _, [], rest => pure ([], rest)
  | fuel + 1, letter :: others, rest => do
      if withArgument.contains letter then
        match others, rest with
        | [], [] => giveUp ("No arg for -" ++ String.singleton letter ++ " option")
        | [], argument :: rest => return ([(letter, argument)], rest)
        | _, _ => return ([(letter, String.ofList others)], rest)
      else if letters.contains letter then
        let (options, rest) ← optionLetters letters withArgument fuel others rest
        return ((letter, "") :: options, rest)
      else giveUp ("Illegal option -" ++ String.singleton letter)

/-- Read options up to the first argument that is none. -/
def readOptions (letters withArgument : List Char) : Nat → List Octets →
    Shell (List (Char × Octets) × List Octets)
  | 0, arguments => pure ([], arguments)
  | _, [] => pure ([], [])
  | fuel + 1, word :: rest => do
      match word.toList with
      | '-' :: letter :: others =>
          if letter == '-' && others.isEmpty then return ([], rest)
          else
            let (options, rest) ←
              optionLetters letters withArgument (others.length + 2) (letter :: others) rest
            let (later, rest) ← readOptions letters withArgument fuel rest
            return (options ++ later, rest)
      | _ => return ([], word :: rest)

/-- The options among some arguments, and the arguments behind them. -/
def options (letters : List Char) (arguments : List Octets) : Shell (List Char × List Octets) := do
  let (found, rest) ← readOptions letters [] (arguments.length + 1) arguments
  return (found.map Prod.fst, rest)

/-- Print arguments with blanks between them; escapes are replaced. -/
def echo : Builtin := fun arguments => do
  let (noNewline, words) := match arguments with
    | "-n" :: rest => (true, rest)
    | _ => (false, arguments)
  let rec texts : List Octets → List Octets × Bool
    | [] => ([], false)
    | word :: rest =>
        let unescaped := Printf.unescape Printf.shellRules word
        let text := String.ofList unescaped.text
        if unescaped.stopped then ([text], true)
        else
          let (later, stoppedLater) := texts rest
          (text :: later, stoppedLater)
  let (printed, stopped) := texts words
  say (" ".intercalate printed ++ if noNewline || stopped then "" else "\n")
  return 0

/-- How an argument that should be a number is complained about. -/
def faultText : Printf.Fault → Octets
  | .notNumeric => "expected numeric value"
  | .incomplete => "not completely converted"
  | .outOfRange => "Numerical result out of range"
  | .ignored _ => ""

/-- Print a format with arguments. -/
def printf : Builtin := fun arguments => do
  let (_, words) ← options [] arguments
  match words with
  | [] => giveUp "usage: printf format [arg ...]"
  | format :: rest =>
      let outcome := Printf.print Printf.shellRules format rest
      say (String.ofList outcome.output)
      outcome.faults.forM fun (_, argument, fault) => complain (argument ++ ": " ++ faultText fault)
      match outcome.failure with
      | some (.unknownDirective written) => giveUp (written ++ ": invalid directive")
      | some _ => giveUp "missing format character"
      | none => return if outcome.faults.isEmpty then 0 else 1

/-- Test a condition. -/
def test : Builtin := fun arguments => do
  match ← perform (Condition.evaluate arguments) with
  | .ok holds => return if holds then 0 else 1
  | .error message => giveUp message

/-- Test a condition between brackets. -/
def bracket : Builtin := fun arguments => do
  if arguments.getLast? == some "]" then test arguments.dropLast
  else giveUp "missing ]"

/-- The components that a path leads through, without those that lead back. -/
def walkedComponents (start : List Octets) (path : Octets) : List Octets :=
  (path.splitOn "/").foldl (fun walked name =>
    if name == "" || name == "." then walked
    else if name == ".." then walked.dropLast
    else walked ++ [name]) start

/-- Where a path leads from a directory, by its letters alone. Two slashes in front of a path, but
not three, are kept. -/
def walk (directory path : Octets) : Octets :=
  let isDouble (text : Octets) : Bool :=
    match text.toList with
    | '/' :: '/' :: '/' :: _ => false
    | '/' :: '/' :: _ => true
    | _ => false
  let isAbsolute := path.toList.head? == some '/'
  let base := if isAbsolute then path else directory
  let start := if isAbsolute then [] else (directory.splitOn "/").filter (· != "")
  (if isDouble base then "//" else "/") ++ "/".intercalate (walkedComponents start path)

/-- Change the working directory to a path. -/
def enterDirectory (physical : Bool) (path : Octets) : Shell Bool := do
  let old := (← get).directory
  let target := if physical then path else walk old path
  match ← perform (Program.attempt (.changeDirectory target)) with
  | .error _ => return false
  | .ok () =>
      let new ← if physical then perform Program.workingDirectory else pure target
      assignExported "OLDPWD" old
      modify fun state => { state with
        directory := new
        found := state.found.filter fun entry => entry.2.toList.head? == some '/' }
      assignExported "PWD" new
      return true

/-- Whether a path starts with a component that leads to a place by itself. -/
def startsWithDots (path : Octets) : Bool :=
  match path.splitOn "/" with
  | first :: _ => first == "." || first == ".."
  | [] => false

/-- Change the working directory. -/
def changeDirectory : Builtin := fun arguments => do
  let (letters, words) ← options ['L', 'P'] arguments
  let physical := letters.getLast? == some 'P'
  let (destination, isShown) ← match words with
    | [] => pure ((← valueOf? "HOME").getD "", false)
    | "-" :: _ => pure ((← valueOf? "OLDPWD").getD "", true)
    | word :: _ => pure (word, false)
  let printed (isPrinted : Bool) : Shell Nat := do
    if isPrinted then say ((← get).directory ++ "\n")
    return 0
  let entered (path : Octets) (isPrinted : Bool) : Shell Nat := do
    if ← enterDirectory physical path then printed isPrinted
    else giveUp ("can't cd to " ++ destination)
  if destination.toList.head? == some '/' || startsWithDots destination then
    entered destination isShown
  else
    let name := if destination.isEmpty then "." else destination
    let places := match ← valueOf? "CDPATH" with
      | some path => path.splitOn ":"
      | none => [""]
    let candidates ← places.filterM fun place => do
      let path := if place.isEmpty then name else place ++ "/" ++ name
      return (← perform (Program.status? path)).any Entry.isDirectory
    match candidates with
    | place :: _ =>
        entered (if place.isEmpty then name else place ++ "/" ++ name)
          (isShown || !place.isEmpty)
    | [] => entered destination isShown

/-- Print the working directory. -/
def printDirectory : Builtin := fun arguments => do
  let (letters, _) ← options ['L', 'P'] arguments
  let directory ← if letters.getLast? == some 'P' then perform Program.workingDirectory
    else pure (← get).directory
  say (directory ++ "\n")
  return 0

/-- The current job, the one before it, or the job with a number or with a command. None of the jobs
shows its command. -/
def findJob (name : Option Octets) : Shell Job := do
  let jobs := (← get).jobs
  let shown := name.getD "(null)"
  let orElse (job : Option Job) (message : Octets) : Shell Job :=
    match job with
    | some job => return job
    | none => giveUp message
  match name.map String.toList with
  | none | some ['%'] | some ['%', '%'] | some ['%', '+'] => orElse jobs.head? "No current job"
  | some ['%', '-'] => orElse jobs[1]? "No previous job"
  | some ('%' :: digits) =>
      let missing := "No such job: " ++ shown
      match plainNumber? (String.ofList digits) with
      | some number => orElse (jobs.find? (·.number == number)) missing
      | none =>
          match digits, jobs with
          | ['?'], [only] => return only
          | ['?'], _ :: _ => giveUp (shown ++ ": ambiguous")
          | _, _ => giveUp missing
  | some _ => giveUp ("No such job: " ++ shown)

/-- Send a signal to each of some processes. -/
def sendSignals (signal : Nat) (targets : List Octets) : Shell Nat := do
  let mut status := 0
  for target in targets do
    let process : Int ← match target.toList with
      | '%' :: _ => do
          let job ← findJob (some target)
          pure (-((job.processes.headD 0 : Nat) : Int))
      | '-' :: digits => pure (-((← requiredNumber (String.ofList digits) : Nat) : Int))
      | _ => pure ((← requiredNumber target : Nat) : Int)
    match ← perform (Program.attempt (.sendSignal process signal)) with
    | .ok () => pure ()
    | .error error =>
        complain ((match error with
          | .os errno => errnoText errno
          | other => other.message) ++ "\n")
        status := 1
  return status

/-- Print the names of the signals, or the one that a signal number or an exit code stands for. -/
def listSignals (arguments : List Octets) : Shell Nat := do
  match arguments with
  | [] =>
      say (String.join ((List.range 65).map fun number => Signal.name number ++ "\n"))
      return 0
  | word :: _ =>
      let number ← requiredNumber word
      let signal := if 128 < number then number - 128 else number
      if signal == 0 || 64 < signal then
        giveUp ("invalid signal number or exit status: " ++ word)
      else
        say (Signal.name signal ++ "\n")
        return 0

/-- Send a signal to processes, or list the signals. -/
def kill : Builtin := fun arguments => do
  let usage : Shell Nat :=
    giveUp ("Usage: kill [-s sigspec | -signum | -sigspec] [pid | job]... or\n" ++
      "kill -l [exitstatus]")
  let sent (signal : Nat) (targets : List Octets) : Shell Nat :=
    if targets.isEmpty then usage else sendSignals signal targets
  match arguments with
  | [] => usage
  | word :: rest =>
      match word.toList with
      | '-' :: letters =>
          match Signal.named? (String.ofList letters) with
          | some signal => sent signal rest
          | none =>
              let (found, targets) ←
                readOptions ['l'] ['s'] (arguments.length + 1) arguments
              let signals ← found.filterMapM fun (letter, name) => do
                if letter == 's' then
                  match Signal.named? name with
                  | some signal => return some signal
                  | none => giveUp ("invalid signal number or name: " ++ name)
                else return none
              if found.any (·.1 == 'l') then
                if signals.isEmpty then listSignals targets else usage
              else sent (signals.getLast?.getD 15) targets
      | _ => sent 15 arguments

/-- Drop arguments from the front. -/
def shift : Builtin := fun arguments => do
  let count ← match arguments with
    | [] => pure 1
    | word :: _ => requiredNumber word
  if (← get).arguments.length < count then giveUp "can't shift that many"
  else
    modify fun state => { state with
      arguments := state.arguments.drop count, optionIndex := 1, optionOffset := none }
    return 0

/-- A text as a script writes it: between single quotes, those in it between double quotes. -/
def quotedFrom : List Char → Bool → List Char
  | [], isOpen => if isOpen then ['\''] else []
  | '\'' :: rest, isOpen =>
      (if isOpen then ['\'', '"'] else ['"']) ++ '\'' :: quotesFrom rest
  | character :: rest, isOpen => (if isOpen then [] else ['\'']) ++ character :: quotedFrom rest true
where
  /-- Go on behind a single quote between double quotes. -/
  quotesFrom : List Char → List Char
    | '\'' :: rest => '\'' :: quotesFrom rest
    | [] => ['"']
    | character :: rest => '"' :: '\'' :: character :: quotedFrom rest true

/-- A text as a script writes it. -/
def quoted (text : Octets) : Octets :=
  match text.toList with
  | [] => "''"
  | characters => String.ofList ('\'' :: quotedFrom characters true)

/-- Print variables with their values, sorted by their names. -/
def listVariables (start : Octets) (names : List Octets) : Shell Nat := do
  let bindings := (← get).bindings
  (names.mergeSort fun left right => left ≤ right).forM fun name =>
    say (start ++ name ++ (match bindings.lookup name with
      | some value => "=" ++ quoted value
      | none => "") ++ "\n")
  return 0

/-- The name in front of an equals sign, and the value behind it if there is one. -/
def splitAssignment (word : Octets) : Octets × Option Octets :=
  let (name, behind) := word.toList.span (· != '=')
  (String.ofList name, if behind.isEmpty then none else some (String.ofList (behind.drop 1)))

/-- Mark variables for the programs that are started or against changes, with a value where one is
given. -/
def markVariables (isExport : Bool) : Builtin := fun arguments => do
  let (letters, words) ← options ['p'] arguments
  let state ← get
  if letters.contains 'p' || words.isEmpty then
    if isExport then listVariables "export " state.exported
    else listVariables "readonly " state.readonly
  else
    words.forM fun word => do
      let (name, value) := splitAssignment word
      if !isName name then giveUp (name ++ ": bad variable name")
      match value with
      | some value => assign name value
      | none => pure ()
      if isExport then markExported name
      else modify fun state => { state with
        readonly := ShellState.mark state.readonly name true }
    return 0

/-- Let a function have variables of its own until it ends. They keep their values where none is
given. A dash stands for the settings. -/
def localVariables : Builtin := fun arguments => do
  if (← get).covered.isNone then giveUp "not in a function"
  arguments.forM fun word => do
    if word == "-" then
      modify fun state => { state with
        covered := state.covered.map
          ({ name := "-", value := none, exported := false, readonly := false
             settings := some state.settings } :: ·) }
    else
      let (name, value) := splitAssignment word
      if value.isNone && !isName name then giveUp (name ++ ": bad variable name")
      cover name
      match value with
      | some value => assign name value
      | none => pure ()
  return 0

/-- Forget variables or functions. -/
def unset : Builtin := fun arguments => do
  let (letters, names) ← options ['v', 'f'] arguments
  names.forM fun name => do
    if letters.getLast? == some 'f' then
      modify fun state => { state with functions := state.functions.filter (·.1 != name) }
    else if !isName name then giveUp (name ++ ": bad variable name")
    else forget name
  return 0

/-- Read a line byte by byte, as stretches that are split or not. The flag tells whether it was
ended; a backslash at its end joins the next line unless it is taken as it is. -/
def readLine (raw : Bool) : Nat → List Stretch → Program (Expansion × Bool)
  | 0, read => pure (read.reverse, false)
  | fuel + 1, read => do
      let add (breaking : Breaking) (character : Char) : List Stretch :=
        match read with
        | stretch :: rest =>
            if stretch.breaking == breaking then
              { stretch with glyphs := .character character false :: stretch.glyphs } :: rest
            else ⟨breaking, [.character character false]⟩ :: read
        | [] => [⟨breaking, [.character character false]⟩]
      let complete (isEnded : Bool) : Program (Expansion × Bool) :=
        return ((read.map fun stretch =>
          { stretch with glyphs := stretch.glyphs.reverse }).reverse, isEnded)
      match ← Program.ask (.read 0 1) with
      | .octets data =>
          match data.toList with
          | [] => complete false
          | '\n' :: _ => complete true
          | '\x00' :: _ => readLine raw fuel read
          | '\\' :: _ =>
              if raw then readLine raw fuel (add .atSeparators '\\')
              else
                match ← Program.ask (.read 0 1) with
                | .octets next =>
                    match next.toList with
                    | [] => complete false
                    | '\n' :: _ => readLine raw fuel read
                    | character :: _ => readLine raw fuel (add .never character)
                | _ => complete false
          | character :: _ => readLine raw fuel (add .atSeparators character)
      | _ => complete false

/-- Read a line into variables. The last one takes all that is left. -/
def readVariables : Builtin := fun arguments => do
  let (found, names) ← readOptions ['r'] ['p'] (arguments.length + 1) arguments
  if names.isEmpty then giveUp "arg count"
  else
    let (line, isEnded) ← perform (readLine (found.any (·.1 == 'r')) Program.readLimit [])
    let fields := splitFields (← separators) (some names.length) line
    (names.zip (fields.map fieldText ++ names.map fun _ => "")).forM fun (name, value) => do
      if !isName name then giveUp (name ++ ": bad variable name")
      assign name value
    return if isEnded then 0 else 1

/-- Switch a setting. There is no terminal to watch jobs at. -/
def switchSetting (isOn : Bool) (name : Octets) : Shell Unit := do
  if isOn && name == "monitor" then complain "can't access tty; job control turned off"
  else modify fun state => { state with settings := ShellState.mark state.settings name isOn }

/-- Switch the setting that a letter stands for. The letters of the two editors exclude each other.
-/
def switchLetter (isOn : Bool) (letter : Char) : Shell Unit := do
  if isOn && letter == 'V' then switchSetting false "emacs"
  if isOn && letter == 'E' then switchSetting false "vi"
  match settingOf? letter with
  | some name => switchSetting isOn name
  | none => giveUp ("Illegal option -" ++ String.singleton letter)

/-- Switch a setting by its name, or list all settings. -/
def switchName (isOn : Bool) : Option Octets → Shell Unit
  | none => do
      let state ← get
      if isOn then
        say "Current option settings\n"
        settingNames.forM fun (name, _) =>
          say (name ++ String.ofList (List.replicate (16 - name.length) ' ') ++
            (if state.isOn name then "on" else "off") ++ "\n")
      else
        settingNames.forM fun (name, _) =>
          say ("set " ++ (if state.isOn name then "-o " else "+o ") ++ name ++ "\n")
  | some name => do
      if settingNames.any (·.1 == name) then switchSetting isOn name
      else giveUp ("Illegal option -o " ++ name)

/-- Switch the settings of a group of letters. What is left of the arguments is returned. -/
def switchLetters (isOn : Bool) : List Char → List Octets → Shell (List Octets)
  | [], rest => pure rest
  | 'o' :: letters, rest => do
      switchName isOn rest.head?
      switchLetters isOn letters (rest.drop 1)
  | letter :: letters, rest => do
      switchLetter isOn letter
      switchLetters isOn letters rest

/-- Replace the arguments of the shell. -/
def setArguments (arguments : List Octets) : Shell Unit :=
  modify fun state => { state with arguments, optionIndex := 1, optionOffset := none }

/-- Change settings and arguments. -/
def setOptions : Nat → List Octets → Shell Nat
  | 0, _ => pure 0
  | fuel + 1, arguments => do
      match arguments with
      | [] => return 0
      | word :: rest =>
          match word.toList with
          | ['-', '-'] =>
              setArguments rest
              return 0
          | ['-'] =>
              switchSetting false "xtrace"
              switchSetting false "verbose"
              if !rest.isEmpty then setArguments rest
              return 0
          | '-' :: letters => setOptions fuel (← switchLetters true letters rest)
          | '+' :: letters => setOptions fuel (← switchLetters false letters rest)
          | _ =>
              setArguments arguments
              return 0

/-- Change settings and arguments, or print the variables. -/
def setSomething : Builtin := fun arguments => do
  if arguments.isEmpty then listVariables "" ((← get).bindings.map Prod.fst)
  else setOptions (arguments.length + 1) arguments

/-- Set what is done on signals. -/
def trap : Builtin := fun arguments => do
  let (_, words) ← options [] arguments
  let signalOf? (name : Octets) : Option Nat :=
    if name.toUpper == "EXIT" then some 0 else Signal.named? name
  let isNumber (word : Octets) : Bool :=
    word.toList.all Char.isDigit && (Signal.named? word).isSome
  match words with
  | [] =>
      let sorted := (← get).traps.mergeSort fun left right => left.1 ≤ right.1
      sorted.forM fun (signal, action) =>
        say ("trap -- " ++ quoted action ++ " " ++
          (if signal == 0 then "EXIT" else Signal.name signal) ++ "\n")
      return 0
  | first :: rest =>
      let action := if rest.isEmpty || isNumber first || first == "-" then none else some first
      let names := if rest.isEmpty || isNumber first then words else rest
      for name in names do
        match signalOf? name with
        | none =>
            perform (Program.complain ("trap: " ++ name ++ ": bad trap\n"))
            return 1
        | some signal =>
            modify fun state => { state with
              traps := (action.map (signal, ·)).toList ++ state.traps.filter (·.1 != signal) }
            if signal != 0 then
              let disposition : Disposition := match action with
                | none => .standard
                | some text => if text.isEmpty then .ignored else .caught
              let _ ← ask (.setDisposition signal disposition)
      return 0

/-- Note which processes of the jobs have ended. -/
def pollJobs : Nat → Shell Unit
  | 0 => pure ()
  | fuel + 1 => do
      match ← ask (.awaitChild none false) with
      | .ended child status =>
          noteEnd child status
          pollJobs fuel
      | _ => pure ()

/-- Put a job in the place of the one with the same number. -/
def replaceJob (job : Job) : Shell Unit :=
  modify fun state => { state with
    jobs := state.jobs.map fun other => if other.number == job.number then job else other }

/-- Forget a job. -/
def forgetJob (number : Nat) : Shell Unit :=
  modify fun state => { state with jobs := state.jobs.filter (·.number != number) }

/-- The number for a new job. A job that was waited for makes room for it. -/
def nextJobNumber : Shell Nat := do
  let jobs := (← get).jobs
  let isFree (number : Nat) : Bool :=
    jobs.all fun job => job.number != number || (job.isAwaited && job.outcome?.isSome)
  let number := ((List.range (jobs.length + 1)).find? fun index => isFree (index + 1)).getD 0 + 1
  forgetJob number
  return number

/-- How the state of a job is told. -/
def jobState (job : Job) : Octets :=
  match job.outcome? with
  | none => "Running"
  | some status =>
      match status.exitCode? with
      | some 0 => "Done"
      | some code => "Done(" ++ toString code ++ ")"
      | none => Signal.description (status.word &&& 0x7F).toNat

/-- Print a job. One that has ended is then forgotten. -/
def showJob (letters : List Char) (job : Job) : Shell Unit := do
  if letters.getLast? == some 'p' then say (toString (job.processes.headD 0) ++ "\n")
  else
    let jobs := (← get).jobs
    let mark := if (jobs.head?.map Job.number) == some job.number then "+"
      else if (jobs[1]?.map Job.number) == some job.number then "-" else " "
    let isLong := letters.getLast? == some 'l'
    let start := "[" ++ toString job.number ++ "] " ++ mark ++ " " ++
      (if isLong then toString (job.processes.headD 0) ++ " " else "") ++ jobState job
    let padded := start ++ String.ofList (List.replicate (max 1 (33 - start.length)) ' ')
    let others := job.processes.drop 1
    if isLong then
      say (padded ++ String.join (others.map fun process =>
        let line := "   " ++ "  " ++ " " ++ toString process ++ " "
        " |\n" ++ line ++ String.ofList (List.replicate (max 1 (36 - line.length)) ' ')) ++ "\n")
    else say (padded ++ String.join (others.map fun _ => " | ") ++ "\n")
    if job.outcome?.isSome then forgetJob job.number

/-- Print jobs. -/
def listJobs : Builtin := fun arguments => do
  let (letters, names) ← options ['l', 'p'] arguments
  if names.isEmpty then
    pollJobs awaitLimit
    (← get).jobs.forM (showJob letters)
  else names.forM fun name => do showJob letters (← findJob (some name))
  return 0

/-- Go on with a job, which cannot be done to any of them. -/
def resumeJob : Builtin := fun arguments => do
  let (_, names) ← options [] arguments
  let _ ← findJob names.head?
  giveUp ("job " ++ names.head?.getD "(null)" ++ " not created under job control")

/-- Wait for the processes of a job, and tell of a death if that is wanted. The error is a signal that
arrived before the job has ended. -/
def awaitJob (tells : Bool) : Nat → Nat → Shell (Except Nat Nat)
  | 0, _ => pure (.ok 127)
  | fuel + 1, number => do
      match (← get).jobs.find? (·.number == number) with
      | none => return .ok 127
      | some job =>
          match job.outcome? with
          | some status =>
              replaceJob { job with isAwaited := true }
              return .ok (codeOf status)
          | none =>
              match ← ask (.awaitChild none true) with
              | .ended child status =>
                  noteEnd child status
                  let completed := ((← get).jobs.find? (·.number == number)).bind Job.outcome?
                  if tells && completed.isSome && job.processes.contains child then
                    tellDeath status
                  awaitJob tells fuel number
              | _ =>
                  collectSignals
                  match (← get).arrived.getLast? with
                  | some signal => return .error signal
                  | none => return .ok 127

/-- Wait for jobs: for those that are named, or for all. -/
def waitFor : Builtin := fun arguments => do
  let (_, names) ← options [] arguments
  let waited (tells : Bool) (job : Job) : Shell (Except Nat Nat) :=
    awaitJob tells awaitLimit job.number
  if names.isEmpty then
    for job in (← get).jobs do
      match ← waited false job with
      | .ok _ => pure ()
      | .error signal => return 128 + signal
    return 0
  else
    let mut status := 127
    for name in names do
      let job? ← match name.toList with
        | '%' :: _ => pure (some (← findJob (some name)))
        | _ => do
            let process ← requiredNumber name
            pure ((← get).jobs.find? fun job => job.processes.getLast? == some process)
      match job? with
      | none => pure ()
      | some job =>
          match ← waited true job with
          | .ok code => status := code
          | .error signal => return 128 + signal
    return status

/-- The value for the options that a script looks for, with what is left of the argument. -/
structure OptionFound where
  letter : Char
  argument : Option Octets
  index : Nat
  offset : Option Nat
  isEnd : Bool := false

/-- Look for the next option among arguments. The message is about an option that is not known or
that lacks its argument. -/
def nextOption (wanted : List Char) (arguments : List Octets) (index : Nat) (offset : Option Nat) :
    OptionFound × Option Octets :=
  let isQuiet := wanted.head? == some ':'
  let previous := (arguments[index - 2]?.getD "").toList
  let inside := match offset with
    | some count => if index ≤ 1 || previous.length < count then [] else previous.drop count
    | none => []
  let current := (arguments[index - 1]?.getD "").toList
  let ended (index : Nat) : OptionFound × Option Octets :=
    ({ letter := '?', argument := none, index, offset := none, isEnd := true }, none)
  let found (letters : List Char) (index : Nat) : OptionFound × Option Octets :=
    match letters with
    | [] => ended index
    | letter :: rest =>
        let length := (arguments[index - 2]?.getD "").length - rest.length
        let place := (wanted.zipIdx.drop (if isQuiet then 1 else 0)).find? fun (other, _) =>
          other == letter && letter != ':'
        match place with
        | none =>
            ({ letter := '?', index, offset := some length
               argument := if isQuiet then some (String.singleton letter) else none },
              if isQuiet then none else some ("Illegal option -" ++ String.singleton letter))
        | some (_, place) =>
            if wanted[place + 1]? == some ':' then
              match rest, arguments[index - 1]? with
              | [], none =>
                  ({ letter := if isQuiet then ':' else '?', index, offset := some length
                     argument := if isQuiet then some (String.singleton letter) else none },
                    if isQuiet then none
                    else some ("No arg for -" ++ String.singleton letter ++ " option"))
              | [], some argument =>
                  ({ letter, argument := some argument, index := index + 1, offset := none }, none)
              | _, _ =>
                  ({ letter, argument := some (String.ofList rest), index, offset := none }, none)
            else ({ letter, argument := some "", index, offset := some length }, none)
  match inside with
  | [] =>
      match current with
      | '-' :: letter :: rest =>
          if letter == '-' && rest.isEmpty then ended (index + 1)
          else found (letter :: rest) (index + 1)
      | _ => ended index
  | letters => found letters index

/-- Give the next option among arguments to a variable. -/
def getOptions : Builtin := fun arguments => do
  match arguments with
  | wanted :: name :: given =>
      let state ← get
      let among := if given.isEmpty then state.arguments else given
      let isBeyond := among.length + 1 < state.optionIndex
      let index := if isBeyond then 1 else state.optionIndex
      let offset := if isBeyond then none else state.optionOffset
      let (found, message) := nextOption wanted.toList among index offset
      match message with
      | some text => perform (Program.complain (text ++ "\n"))
      | none => pure ()
      if !found.isEnd then
        match found.argument with
        | some argument => assign "OPTARG" argument
        | none => forget "OPTARG"
      assign "OPTIND" (toString found.index)
      if !isName name then giveUp (name ++ ": bad variable name")
      assign name (String.singleton found.letter)
      modify fun state => { state with optionIndex := found.index, optionOffset := found.offset }
      return if found.isEnd then 1 else 0
  | _ => giveUp "Usage: getopts optstring var [arg...]"

/-- Print an alias. -/
def showAlias (name text : Octets) : Shell Unit :=
  say (name ++ "=" ++ quoted text ++ "\n")

/-- Set or print aliases. -/
def setAliases : Builtin := fun arguments => do
  if arguments.isEmpty then
    let sorted := (← get).aliases.mergeSort fun left right =>
      tablePlace 39 left.1 ≤ tablePlace 39 right.1
    sorted.forM fun (name, text) => showAlias name text
    return 0
  else
    let mut status := 0
    for word in arguments do
      let characters := word.toList
      let start := characters.take 1 ++ (characters.drop 1).takeWhile (· != '=')
      let name := String.ofList start
      let aliases := (← get).aliases
      if start.length < characters.length then
        let text := String.ofList (characters.drop (start.length + 1))
        modify fun state => { state with
          aliases := if (aliases.lookup name).isSome then
            aliases.map fun entry => if entry.1 == name then (name, text) else entry
            else aliases ++ [(name, text)] }
      else
        match aliases.lookup name with
        | some text => showAlias name text
        | none =>
            perform (Program.complain ("alias: " ++ name ++ " not found\n"))
            status := 1
    return status

/-- Forget aliases. -/
def forgetAliases : Builtin := fun arguments => do
  let (letters, names) ← options ['a'] arguments
  if letters.contains 'a' then
    modify fun state => { state with aliases := [] }
    return 0
  else
    let mut status := 0
    for name in names do
      if ((← get).aliases.lookup name).isNone then
        perform (Program.complain ("unalias: " ++ name ++ " not found\n"))
        status := 1
      else modify fun state => { state with aliases := state.aliases.filter (·.1 != name) }
    return status

/-- The three bits of the permissions that some letters stand for. -/
def permissionBits (letters : List Char) : Nat :=
  letters.foldl (fun bits letter =>
    bits ||| (match letter with
      | 'r' => 4
      | 'w' => 2
      | 'x' | 'X' => 1
      | _ => 0)) 0

/-- Apply a change of permissions such as `g+w` to permissions, if it is one. -/
def changedPermissions? (permissions : Nat) (change : List Char) : Option Nat :=
  let (who, behind) := change.span ['u', 'g', 'o', 'a'].contains
  let everyone := who.isEmpty || who.contains 'a'
  let spread (bits : Nat) : Nat :=
    (if everyone || who.contains 'u' then bits * 64 else 0) +
      (if everyone || who.contains 'g' then bits * 8 else 0) +
      (if everyone || who.contains 'o' then bits else 0)
  let without (bits : Nat) : Nat := permissions &&& (511 ^^^ bits)
  match behind with
  | operator :: letters =>
      if !(letters.all ['r', 'w', 'x', 'X', 's', 't'].contains) then none
      else
        let bits := spread (permissionBits letters)
        match operator with
        | '+' => some (permissions ||| bits)
        | '-' => some (without bits)
        | '=' => some (without (spread 7) ||| bits)
        | _ => none
  | [] => none

/-- Print or set the permissions that are taken from new files. -/
def setMask : Builtin := fun arguments => do
  let (letters, words) ← options ['S'] arguments
  let mask := (← get).mask
  match words with
  | [] =>
      if letters.isEmpty then
        let digits := Nat.toDigits 8 mask
        say (String.ofList (List.replicate (4 - digits.length) '0' ++ digits) ++ "\n")
      else
        let shown (bits : Nat) : Octets :=
          (if bits &&& 4 == 0 then "r" else "") ++ (if bits &&& 2 == 0 then "w" else "") ++
            (if bits &&& 1 == 0 then "x" else "")
        say ("u=" ++ shown (mask / 64) ++ ",g=" ++ shown (mask / 8) ++ ",o=" ++ shown mask ++ "\n")
      return 0
  | word :: _ =>
      let characters := word.toList
      if characters.head?.any Char.isDigit then
        if !(characters.all Printf.isOctal) then giveUp ("Illegal number: " ++ word)
        let value := characters.foldl (fun value digit => value * 8 + (digit.toNat - 48)) 0
        modify fun state => { state with mask := value % 512 }
        return 0
      else
        let changed := (word.splitOn ",").foldl (fun permissions change =>
          permissions.bind fun value => changedPermissions? value change.toList)
          (some (511 ^^^ mask))
        match changed with
        | some permissions =>
            modify fun state => { state with mask := 511 ^^^ permissions }
            return 0
        | none => giveUp ("Illegal mode: " ++ word)

/-- Leave a number of the loops around the command, or go on with the next round of one of them.
Outside of loops nothing is done. -/
def escapeLoops (escape : Nat → Escape) : Builtin := fun arguments => do
  let levels ← match arguments with
    | [] => pure 1
    | word :: _ => do
        let levels ← requiredNumber word
        if levels == 0 then giveUp ("Illegal number: " ++ word)
        pure levels
  let depth := (← get).loopDepth
  if depth == 0 then return 0
  else
    setStatus 0
    throw (escape (min levels depth))

/-- The exit code that an argument asks for; without one it is that of the last command. -/
def codeArgument (arguments : List Octets) : Shell Nat := do
  match arguments with
  | [] => return (← get).status
  | word :: _ => requiredNumber word

/-- End the shell. What is done about a signal ends it as the command ended that was interrupted. -/
def leaveShell : Builtin := fun arguments => do
  let code ← match arguments with
    | [] => do
        let state ← get
        pure (state.interrupted.getD state.status)
    | word :: _ => requiredNumber word
  throw (.exit code)

/-- Print the times that were used, which are too short to be seen. -/
def showTimes : Builtin := fun _ => do
  say "0m0.000000s 0m0.000000s\n0m0.000000s 0m0.000000s\n"
  return 0

/-- Print the limits of the shell, of which there are none. -/
def showLimits : Builtin := fun arguments => do
  let (_, words) ← options "HSatfdsmcnpvlwer".toList arguments
  if words.isEmpty then say "unlimited\n"
  return 0

/-- The commands that a shell carries out alone. -/
def builtin? (name : Octets) : Option Builtin :=
  match name with
  | ":" | "true" => some fun _ => return 0
  | "false" => some fun _ => return 1
  | "echo" => some echo
  | "printf" => some printf
  | "test" => some test
  | "[" => some bracket
  | "pwd" => some printDirectory
  | "cd" | "chdir" => some changeDirectory
  | "kill" => some kill
  | "shift" => some shift
  | "export" => some (markVariables true)
  | "readonly" => some (markVariables false)
  | "local" => some localVariables
  | "unset" => some unset
  | "read" => some readVariables
  | "set" => some setSomething
  | "trap" => some trap
  | "wait" => some waitFor
  | "jobs" => some listJobs
  | "fg" | "bg" => some resumeJob
  | "getopts" => some getOptions
  | "alias" => some setAliases
  | "unalias" => some forgetAliases
  | "umask" => some setMask
  | "ulimit" => some showLimits
  | "times" => some showTimes
  | "break" => some (escapeLoops .leaveLoop)
  | "continue" => some (escapeLoops .nextRound)
  | "exit" => some leaveShell
  | "return" => some fun arguments => do
      throw (.leaveFunction (← codeArgument arguments))
  | _ => none

/-- The commands of a shell that need more than their arguments. -/
def scriptBuiltins : List Octets := ["eval", ".", "exec", "command", "type", "hash"]

/-- Whether a shell carries out a command itself. -/
def isBuiltin (name : Octets) : Bool :=
  (builtin? name).isSome || scriptBuiltins.contains name

end QueryFoundry.Sandbox.Shell
