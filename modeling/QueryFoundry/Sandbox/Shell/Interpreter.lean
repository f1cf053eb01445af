import QueryFoundry.Sandbox.Shell.Descriptors
import QueryFoundry.Sandbox.Shell.Expansion
import QueryFoundry.Sandbox.Shell.Lookup

/-!
# Running shell scripts

Words are expanded, redirections set up and commands run. Every function takes fuel, which bounds
the depth of a run and the rounds of its loops.
-/

namespace QueryFoundry.Sandbox.Shell

open Text (Octets)

/-- How a command is run. -/
structure Manner where
  /-- The command is a condition: its failure is no mistake. -/
  tested : Bool := false
  /-- Nothing is left to do for the shell behind the command, so that a program takes its place. -/
  last : Bool := false

/-- The manner in which the parts of a command are run that something follows. -/
def Manner.inner (manner : Manner) : Manner := { manner with last := false }

/-- The manner of a condition. -/
def Manner.condition : Manner := { tested := true }

/-- How the words of a simple command begin. -/
structure Beginning where
  /-- What the words expand to that were expanded so far. -/
  fields : List Octets := []
  /-- The words that follow them. -/
  rest : List Word
  /-- How many fields stand in front of the name of the command. -/
  skipped : Nat := 0
  ignoresFunctions : Bool := false
  usesStandardPath : Bool := false
  /-- Whether the first name is that of a special command of the shell, if it is that of one of its
  commands. -/
  isSpecial : Option Bool := none
  /-- Whether the variables that are given values come back to what they were. -/
  isLocal : Bool := false
  /-- Whether the command was found that the name stands for. -/
  isFound : Bool := false

/-- The name of the command and its arguments. -/
def Beginning.arguments (beginning : Beginning) : List Octets :=
  beginning.fields.drop beginning.skipped

/-- What a process does that acts as a shell and then ends; at its end it does what it was told to.
-/
def toTask (atExit : Octets → Shell Unit) (action : Shell Unit) (state : ShellState) : Task :=
  let codeAfter (outcome : Except Escape Unit) (final : ShellState) : Nat :=
    match outcome with
    | .error (.exit code) | .error (.leaveFunction code) => code
    | _ => final.status
  action state fun (outcome, final) =>
    let code := codeAfter outcome final
    match final.traps.lookup 0 with
    | none => .exit (UInt8.ofNat code)
    | some script =>
        let cleared := { final with
          traps := final.traps.filter (·.1 != 0), status := code, interrupted := some code }
        atExit script cleared fun (last, after) =>
          match last with
          | .error (.exit other) => .exit (UInt8.ofNat other)
          | .error .mistake => .exit (UInt8.ofNat after.status)
          | _ => .exit (UInt8.ofNat code)

/-- Whether something is done on a signal or at the end of the shell. -/
def hasTraps : Shell Bool := do
  return (← get).traps.any fun entry => !entry.2.isEmpty

/-- What a copy of a shell does first: what was to be done on signals is forgotten. -/
def becomeCopy : Shell Unit := do
  let traps := (← get).traps
  modify fun state => { state with traps := traps.filter (·.2.isEmpty), jobs := [] }
  traps.forM fun (signal, action) => do
    if signal != 0 && !action.isEmpty then
      let _ ← ask (.setDisposition signal .standard)

/-- Let a process in the background not be interrupted, and let the first one of a job read nothing.
-/
def enterBackground (isFirst : Bool) : Shell Unit := do
  let _ ← ask (.setDisposition 2 .ignored)
  let _ ← ask (.setDisposition 3 .ignored)
  if isFirst then
    let _ ← ask (.close 0)
    match ← ask (.openFile "/dev/null" .read) with
    | .number descriptor => perform (moveDescriptor descriptor 0)
    | _ => pure ()

/-- Wait for processes in the foreground. -/
def awaitForeground (processes : List Nat) : Shell Unit := do
  let _ ← nextJobNumber
  setStatus (← await processes)

/-- Note a job in the background. -/
def addJob (processes : List Nat) : Shell Unit := do
  let number ← nextJobNumber
  modify fun state => { state with
    jobs := { number, processes } :: state.jobs
    lastBackground := processes.getLast? <|> state.lastBackground, status := 0 }

/-- Go round a loop: carry out its body and tell whether the loop goes on. -/
def loopRound (body : Shell Unit) : Shell Bool :=
  try
    body
    return true
  catch
    | .leaveLoop levels =>
        if 1 < levels then throw (.leaveLoop (levels - 1)) else return false
    | .nextRound levels =>
        if 1 < levels then throw (.nextRound (levels - 1)) else return true
    | escape => throw escape

/-- Do something inside of one more loop. -/
def inLoop (action : Shell Unit) : Shell Unit := do
  modify fun state => { state with loopDepth := state.loopDepth + 1 }
  thenAlways action (modify fun state => { state with loopDepth := state.loopDepth - 1 })

/-- The time between two rounds of a loop. -/
def roundTime : Nat := 100000

/-- Do something with the arguments of a function. -/
def inFunction (arguments : List Octets) (action : Shell Unit) : Shell Unit := do
  let outer ← get
  modify fun state => { state with
    arguments, loopDepth := 0, optionIndex := 1, optionOffset := none }
  let restore : Shell Unit := modify fun state => { state with
    arguments := outer.arguments, loopDepth := outer.loopDepth
    optionIndex := outer.optionIndex, optionOffset := outer.optionOffset }
  thenAlways
    (try action catch
      | .leaveFunction code => setStatus code
      | escape => throw escape)
    restore

/-- Call a command of the shell. A mistake in it ends the shell only if it is one of the special
ones. -/
def callBuiltin (name : Octets) (isSpecial : Bool) (builtin : Builtin) (arguments : List Octets) :
    Shell Unit := do
  let call : Shell Unit := speakingAs name do
    let code ← builtin arguments
    match ← flush with
    | .ok () => setStatus code
    | .error _ =>
        complain (name ++ ": I/O error")
        setStatus (code ||| 1)
  try call catch
    | .mistake =>
        modify fun state => { state with output := "" }
        if isSpecial then throw .mistake
    | escape =>
        modify fun state => { state with output := "" }
        throw escape

/-- The commands of the shell that start no command themselves. -/
def plainBuiltin? (name : Octets) : Option Builtin :=
  match name with
  | "command" => some tellCommand
  | "type" => some tellKinds
  | "hash" => some rememberPrograms
  | _ => builtin? name

/-- The file that the command for reading a script reads. -/
def scriptFile (name : Octets) : Shell Octets := do
  if name.toList.contains '/' then return name
  else
    let candidates := programCandidates (← searchPath) name
    let files ← candidates.filterM fun path => do
      return (← perform (Program.status? path)).any Entry.isFile
    match files with
    | path :: _ => return path
    | [] => giveUp (name ++ ": not found")

/-- End the shell if a command failed and failures are not to be passed over. -/
def checkFailure (manner : Manner) : Shell Unit := do
  let state ← get
  if state.isOn "errexit" && state.status != 0 && !manner.tested then
    throw (.exit state.status)

/-- The files of a program to try, from the one that was found on. -/
def candidatesFrom (name found : Octets) (places : Option Octets) : Shell (List Octets) := do
  if name.toList.contains '/' then return [name]
  else
    let path ← match places with
      | some path => pure path
      | none => searchPath
    return (programCandidates path name).dropWhile (· != found)

mutual

/-- What the parts of a word expand to. -/
def expandPieces : Nat → Scope → Bool → Word → Shell Expansion
  | 0, _, _, _ => pure []
  | _ + 1, _, _, [] => pure []
  | fuel + 1, scope, atStart, piece :: rest => do
      let first ← expandPiece fuel scope atStart rest.isEmpty piece
      return first ++ (← expandPieces fuel scope false rest)

/-- What a part of a word expands to. -/
def expandPiece : Nat → Scope → Bool → Bool → Piece → Shell Expansion
  | 0, _, _, _, _ => pure []
  | fuel + 1, scope, atStart, isLast, piece => do
      match piece with
      | .text true content => return [⟨.never, glyphsOf true content⟩]
      | .text false content => expandText scope atStart isLast content
      | .mark => return [⟨.never, [.mark]⟩]
      | .arithmetic quoted expression =>
          let text ← expandWhole fuel { tilde := false } expression
          return yielded quoted (← evaluateArithmetic text)
      | .substitution quoted body => return yielded quoted (← commandOutput fuel body)
      | .parameter quoted name use => expandParameter fuel scope quoted name use

/-- What a parameter expands to. -/
def expandParameter : Nat → Scope → Bool → Octets → ParameterUse → Shell Expansion
  | 0, _, _, _, _ => pure []
  | fuel + 1, scope, quoted, name, use => do
      let value : Shell (Option Octets) :=
        if name == "@" || name == "*" then some <$> argumentText scope quoted (name == "@")
        else parameter? name
      let required : Shell (Option Octets) := do
        let found ← value
        if found.isNone && (← get).isOn "nounset" then giveUp (name ++ ": parameter not set")
        return found
      match use with
      | .unknown => giveUp "Bad substitution"
      | .plain =>
          match ← required with
          | some text => yieldedValue name quoted text
          | none => return []
      | .length => return yielded quoted (toString ((← required).getD "").length)
      | .trim atEnd longest pattern =>
          match ← required with
          | some text =>
              let items := (← expandPieces fuel {} true pattern).pattern
              yieldedValue name quoted (cutMatch atEnd longest items text)
          | none => return []
      | .replace colon kind word =>
          let found ← value
          let present := found.any fun text => !(colon && text.isEmpty)
          let expanded : Shell Expansion := expandPieces fuel (scope.inner quoted) true word
          if kind == '+' then if present then expanded else yieldedValue name quoted ""
          else if present then yieldedValue name quoted (found.getD "")
          else if kind == '=' then
            let text ← expandWhole fuel {} word
            if !isName name then giveUp (name ++ ": bad variable name")
            assign name text
            yieldedValue name quoted text
          else if kind == '?' then
            let text ← expandWhole fuel {} word
            let standard := if colon then "parameter not set or null" else "parameter not set"
            giveUp (name ++ ": " ++ if word.isEmpty then standard else text)
          else expanded

/-- The text of a word that is not split. -/
def expandWhole : Nat → Scope → Word → Shell Octets
  | 0, _, _ => pure ""
  | fuel + 1, scope, word => do
      return (← expandPieces fuel scope true word).text

/-- The fields of a word. -/
def expandFields : Nat → Word → Shell (List Octets)
  | 0, _ => pure []
  | fuel + 1, word => do
      let expansion ← expandPieces fuel { splits := true } true word
      let fields := splitFields (← separators) none expansion
      if (← get).isOn "noglob" then return fields.map fieldText
      else return (← fields.mapM fun field => perform (matchFiles field)).flatten

/-- The value of a variable in front of a command. -/
def expandValue : Nat → Word → Shell Octets
  | 0, _ => pure ""
  | fuel + 1, word => expandWhole fuel { colons := true } word

/-- The fields of an argument of a command that takes assignments. -/
def expandAssignment : Nat → Word → Shell (List Octets)
  | 0, _ => pure []
  | fuel + 1, word => do
      match word.assignment? with
      | some (name, value) => return [name ++ "=" ++ (← expandValue fuel value)]
      | none => expandFields fuel word

/-- What a command prints, without line feeds at the end. -/
def commandOutput : Nat → Option Command → Shell Octets
  | 0, _ | _, none => pure ""
  | fuel + 1, some body => do
      match ← ask .pipe with
      | .numbers reader writer =>
          let id ← forkShell fuel do
            perform (do
              let _ ← Program.ask (.close reader)
              moveDescriptor writer 1)
            runCommand fuel { last := true } body
          let _ ← ask (.close writer)
          let output ← perform (Program.readAll reader Program.readLimit [])
          let _ ← ask (.close reader)
          let _ ← nextJobNumber
          let status ← await [id]
          modify fun state => { state with substitutionStatus := status }
          return trimOutput (match output with
            | .ok text => text
            | .error _ => "")
      | _ => return ""

/-- Start a copy of the shell that does something. -/
def forkShell : Nat → Shell Unit → Shell Nat
  | 0, _ => pure 0
  | fuel + 1, action => do
      perform (Program.fork (toTask (runTrap fuel) (do
        becomeCopy
        action) (← get)))

/-- Find out where redirections lead to. -/
def prepare : Nat → List Redirection → Shell (List Prepared)
  | 0, _ => pure []
  | fuel + 1, redirections => redirections.mapM fun redirection => do
      match redirection with
      | .here descriptor document => return .here descriptor document
      | .mk descriptor .duplicate target =>
          preparedDuplicate descriptor (← expandWhole fuel {} target)
      | .mk descriptor kind target =>
          return .file descriptor kind (← expandWhole fuel {} target)

/-- Set up redirections. What they put aside is returned, together with whether they were set up
without a mistake. -/
def redirect : Nat → Bool → List Prepared → List SavedDescriptor →
    Shell (List SavedDescriptor × Bool)
  | 0, _, _, saved => pure (saved, true)
  | _ + 1, _, [], saved => pure (saved, true)
  | fuel + 1, keeps, target :: rest, saved => do
      let descriptor := target.descriptor
      let attempt : Shell (List SavedDescriptor) := do
        match target with
        | .file _ kind path => occupy keeps saved descriptor (← openTarget kind path)
        | .here _ document =>
            let word := ((← get).documents.lookup document).getD []
            let text ← expandWhole fuel { quoted := true, tilde := false } word
            occupy keeps saved descriptor (← openText text)
        | .duplicate _ source =>
            if source == some descriptor then pure saved
            else duplicateOver keeps saved descriptor source
      let next ← try some <$> attempt catch
        | .mistake => pure none
        | escape => throw escape
      match next with
      | some kept => redirect fuel keeps rest kept
      | none => return (saved, false)

/-- Do something with redirections in place. -/
def underRedirections : Nat → List Redirection → Shell Unit → Shell Unit
  | 0, _, _ => pure ()
  | fuel + 1, redirections, action => do
      let (saved, isDone) ← redirect fuel true (← prepare fuel redirections) []
      if isDone then thenAlways action (restoreDescriptors saved)
      else
        restoreDescriptors saved
        setStatus 2

/-- Run a command. -/
def runCommand : Nat → Manner → Command → Shell Unit
  | 0, _, _ => setStatus 2
  | fuel + 1, manner, command => do
      runTraps fuel
      if !(← get).isOn "noexec" then
        match command with
        | .simple line assignments words redirections =>
            modify fun state => { state with line }
            try runSimple fuel manner assignments words redirections catch
              | .leaveFunction code =>
                  setStatus code
                  checkFailure manner
                  throw (.leaveFunction code)
              | escape => throw escape
            runTraps fuel
            checkFailure manner
        | .redirected line body redirections =>
            modify fun state => { state with line }
            underRedirections fuel redirections do
              match body with
              | some body => runCommand fuel manner.inner body
              | none => setStatus 0
            runTraps fuel
        | .sequence left right =>
            runCommand fuel manner.inner left
            runCommand fuel manner right
        | .connected ifSuccess left right =>
            runCommand fuel .condition left
            if ((← get).status == 0) == ifSuccess then runCommand fuel manner right
        | .negation body =>
            runCommand fuel .condition body
            setStatus (if (← get).status == 0 then 1 else 0)
        | .pipeline background stages =>
            startStages fuel { manner with last := true } background none stages []
            runTraps fuel
            checkFailure manner
        | .subshell line background body redirections =>
            modify fun state => { state with line }
            runSubshell fuel manner background body redirections
            runTraps fuel
            checkFailure manner
        | .branch condition body otherwise =>
            runPart fuel .condition condition
            if (← get).status == 0 then runPart fuel manner body
            else
              match otherwise with
              | some other => runCommand fuel manner other
              | none => setStatus 0
        | .loop untilSuccess condition body =>
            inLoop (runLoop fuel manner.inner 0 untilSuccess condition body)
        | .each line name words body =>
            modify fun state => { state with line }
            let values := (← words.mapM (expandFields fuel)).flatten
            if values.isEmpty then setStatus 0
            inLoop (runEach fuel manner.inner name values body)
        | .choose line subject clauses =>
            modify fun state => { state with line }
            runChoice fuel manner (← expandWhole fuel {} subject) clauses
        | .define name body =>
            modify fun state => { state with
              functions := (name, body) :: state.functions.filter (·.1 != name)
              found := state.found.filter (·.1 != name), status := 0 }

/-- Run a part of a command that may have nothing in it. -/
def runPart : Nat → Manner → Option Command → Shell Unit
  | 0, _, _ => setStatus 2
  | _ + 1, _, none => pure ()
  | fuel + 1, manner, some command => runCommand fuel manner command

/-- Run a command in a copy of the shell, which the shell itself is when nothing is left to do. -/
def runSubshell : Nat → Manner → Bool → Option Command → List Redirection → Shell Unit
  | 0, _, _, _, _ => setStatus 2
  | fuel + 1, manner, background, body, redirections => do
      let prepared ← prepare fuel redirections
      let inside (manner : Manner) : Shell Unit := do
        let (_, isDone) ← redirect fuel false prepared []
        if isDone then runPart fuel { manner with last := true } body else throw .mistake
      if manner.last && !background && !(← hasTraps) then inside manner
      else
        let id ← forkShell fuel do
          if background then
            enterBackground true
            inside { manner with tested := false }
          else inside manner
        if background then addJob [id] else awaitForeground [id]

/-- Run a body as long as a condition succeeds, or until it does. The loop ends as the last round of
its body did. -/
def runLoop : Nat → Manner → Nat → Bool → Option Command → Option Command → Shell Unit
  | 0, _, _, _, _, _ => setStatus 2
  | fuel + 1, manner, lastRound, untilSuccess, condition, body => do
      let _ ← ask (.sleep roundTime)
      let goesOn ← loopRound do
        runPart fuel .condition condition
        if ((← get).status == 0) == untilSuccess then
          setStatus lastRound
          throw (.leaveLoop 1)
        runPart fuel manner body
      if goesOn then runLoop fuel manner (← get).status untilSuccess condition body

/-- Run a body for each of some values of a variable. -/
def runEach : Nat → Manner → Octets → List Octets → Option Command → Shell Unit
  | 0, _, _, _, _ => setStatus 2
  | _ + 1, _, _, [], _ => pure ()
  | fuel + 1, manner, name, value :: rest, body => do
      assign name value
      if ← loopRound (runPart fuel manner body) then runEach fuel manner name rest body

/-- Run the first clause with a pattern that stands for a text. -/
def runChoice : Nat → Manner → Octets → List (List Word × Option Command) → Shell Unit
  | 0, _, _, _ => setStatus 2
  | _ + 1, _, _, [] => setStatus 0
  | fuel + 1, manner, subject, (alternatives, body) :: rest => do
      let isChosen ← alternatives.anyM fun alternative => do
        let items := (← expandPieces fuel {} true alternative).pattern
        return Pattern.matchesText items subject.toList
      if isChosen then
        match body with
        | some command => runCommand fuel manner command
        | none => setStatus 0
      else runChoice fuel manner subject rest

/-- Start the stages of a pipeline, each as a process of its own, and wait for all of them. -/
def startStages : Nat → Manner → Bool → Option Nat → List Command → List Nat → Shell Unit
  | 0, _, _, _, _, _ => setStatus 2
  | _ + 1, _, background, _, [], started =>
      if background then addJob started.reverse else awaitForeground started.reverse
  | fuel + 1, manner, background, input, stage :: rest, started => do
      remember stage
      let start (output : Option (Nat × Nat)) : Shell Nat := forkShell fuel do
        if background then enterBackground started.isEmpty
        match output with
        | some (reader, _) =>
            let _ ← ask (.close reader)
        | none => pure ()
        match input with
        | some reader => perform (moveDescriptor reader 0)
        | none => pure ()
        match output with
        | some (_, writer) => perform (moveDescriptor writer 1)
        | none => pure ()
        runCommand fuel manner stage
      let closeInput : Shell Unit := do
        match input with
        | some reader =>
            let _ ← ask (.close reader)
        | none => pure ()
      if rest.isEmpty then
        let id ← start none
        closeInput
        startStages fuel manner background none rest (id :: started)
      else
        match ← ask .pipe with
        | .numbers reader writer =>
            let id ← start (some (reader, writer))
            closeInput
            let _ ← ask (.close writer)
            startStages fuel manner background (some reader) rest (id :: started)
        | _ => giveUp "Pipe call failed"

/-- Do what is to be done on a signal or at the end of the shell. -/
def runTrap : Nat → Octets → Shell Unit
  | 0, _ => pure ()
  | fuel + 1, script => do
      let _ ← runSource fuel {} 0 { source := { rest := script.toList } }

/-- Do what is to be done on the signals that have arrived. -/
def runTraps : Nat → Shell Unit
  | 0 => pure ()
  | fuel + 1 => do
      if (← get).traps.any fun entry => entry.1 != 0 && !entry.2.isEmpty then
        collectSignals
        let state ← get
        if !state.arrived.isEmpty then
          let signals := (List.range 65).filter state.arrived.contains
          let status := state.interrupted.getD state.status
          modify fun state => { state with arrived := [], interrupted := some status }
          let release : Shell Unit :=
            modify fun after => { after with interrupted := state.interrupted }
          let action : Shell Unit := signals.forM fun signal => do
            match (← get).traps.lookup signal with
            | some script =>
                runTrap fuel script
                setStatus status
            | none => pure ()
          thenAlways action release

/-- Expand words until there is one more field than there was. -/
def moreFields : Nat → Beginning → Shell Beginning
  | 0, beginning => pure beginning
  | fuel + 1, beginning => do
      match beginning.rest with
      | [] => return beginning
      | word :: rest =>
          let fields ← expandFields fuel word
          let next := { beginning with fields := beginning.fields ++ fields, rest }
          if fields.isEmpty then moreFields fuel next else return next

/-- Expand words up to a field, which may be missing. -/
def fieldAt : Nat → Nat → Beginning → Shell (Option Octets × Beginning)
  | 0, _, beginning => pure (none, beginning)
  | fuel + 1, index, beginning => do
      let enough ←
        if index < beginning.fields.length then pure beginning else moreFields fuel beginning
      return (enough.fields[index]?, enough)

/-- Pass over the options of a command that only tells how another one is looked for, up to the name
of that one if there is one. -/
def skipOptions : Nat → Nat → Beginning → Shell (Bool × Beginning)
  | 0, _, beginning => pure (false, beginning)
  | fuel + 1, index, beginning => do
      let (field, beginning) ← fieldAt fuel index beginning
      let found (index : Nat) (beginning : Beginning) : Bool × Beginning :=
        (true, { beginning with skipped := index, ignoresFunctions := true })
      match field.map String.toList with
      | none => return (false, beginning)
      | some ['-', '-'] =>
          let (next, beginning) ← fieldAt fuel (index + 1) beginning
          return if next.isSome then found (index + 1) beginning else (false, beginning)
      | some ('-' :: letter :: letters) =>
          if (letter :: letters).all (· == 'p') then
            skipOptions fuel (index + 1) { beginning with usesStandardPath := true }
          else return (false, beginning)
      | some _ => return found index beginning

/-- Look at the first fields of a command up to its name. -/
def settle : Nat → Beginning → Shell Beginning
  | 0, beginning => pure beginning
  | fuel + 1, beginning => do
      match beginning.arguments with
      | [] => return beginning
      | name :: _ =>
          let isFunction := !beginning.ignoresFunctions &&
            ((← get).functions.lookup name).isSome
          if isFunction || !(isEarlyBuiltin name) then
            return { beginning with isLocal := true, isFound := isFunction }
          else
            let isSpecial := specialBuiltins.contains name
            let isFirst := beginning.isSpecial.isNone
            let next := { beginning with
              isFound := true
              isSpecial := beginning.isSpecial <|> some isSpecial
              isLocal := if isFirst then !isSpecial else true }
            if name != "command" then return next
            else
              let (isSkipped, after) ← skipOptions fuel (next.skipped + 1) next
              if isSkipped then settle fuel { after with isFound := false } else return after

/-- Run a command without parts of its own. -/
def runSimple : Nat → Manner → List (Octets × Word) → List Word → List Redirection → Shell Unit
  | 0, _, _, _, _ => setStatus 2
  | fuel + 1, manner, assignments, words, redirections => do
      modify fun state => { state with substitutionStatus := 0 }
      let first ← moreFields fuel { rest := words }
      let beginning ← settle fuel first
      let name := beginning.arguments.headD ""
      let takesAssignments := beginning.isFound && ["export", "readonly", "local"].contains name
      let others ← beginning.rest.mapM
        (if takesAssignments then expandAssignment fuel else expandFields fuel)
      let complete := { beginning with fields := beginning.fields ++ others.flatten, rest := [] }
      let isExec := complete.isFound && name == "exec"
      let prepared ← prepare fuel redirections
      let (saved, isDone) ← redirect fuel true prepared []
      let restore : Shell Unit := if isExec then dropDescriptors saved else restoreDescriptors saved
      if !isDone then
        restoreDescriptors saved
        setStatus 2
        if complete.isSpecial == some true then throw .mistake
      else
        let action : Shell Unit := do
          let exported := isExec && 1 < complete.arguments.length
          let given ← assignments.mapM fun (name, word) => do
            let value ← expandValue fuel word
            if complete.isLocal then cover name
            if complete.isLocal || exported then assignExported name value
            else assign name value
            return name ++ "=" ++ value
          if (← get).isOn "xtrace" then
            let target := ((saved.lookup 2).bind id).getD 2
            showCommand fuel target (given ++ complete.fields)
          runNamed fuel manner complete
        let covered : Shell Unit := if complete.isLocal then withCovers action else action
        thenAlways covered restore

/-- Show a command that is run. -/
def showCommand : Nat → Nat → List Octets → Shell Unit
  | 0, _, _ => pure ()
  | fuel + 1, target, fields => do
      let settings := (← get).settings
      modify fun state => { state with settings := settings.filter (· != "xtrace") }
      let start ← match quotedWord? ((← valueOf? "PS4").getD "") with
        | some word => expandWhole fuel { quoted := true, tilde := false } word
        | none => pure ""
      modify fun state => { state with settings }
      perform (Program.write target (start ++ " ".intercalate fields ++ "\n"))

/-- Run a function, a command of the shell or a program. -/
def runNamed : Nat → Manner → Beginning → Shell Unit
  | 0, _, _ => setStatus 2
  | fuel + 1, manner, beginning => do
      let isSpecial := beginning.isSpecial == some true
      let state ← get
      match beginning.arguments with
      | [] => setStatus state.substitutionStatus
      | name :: arguments =>
          let functions := if beginning.ignoresFunctions then [] else state.functions
          match functions.lookup name with
          | some body => inFunction arguments (runPart fuel manner.inner body)
          | none =>
              match name with
              | "eval" =>
                  callBuiltin name isSpecial (fun words => do
                    runSource fuel manner.inner 0
                      { source := { rest := (" ".intercalate words).toList } }) arguments
              | "." => callBuiltin name isSpecial (readScript fuel) arguments
              | "exec" => callBuiltin name isSpecial replaceShell arguments
              | _ =>
                  match plainBuiltin? name with
                  | some builtin => callBuiltin name isSpecial builtin arguments
                  | none => runProgram fuel manner beginning.usesStandardPath name arguments

/-- Read a script and run it in the shell. -/
def readScript : Nat → Builtin
  | 0 => fun _ => pure 0
  | fuel + 1 => fun arguments => do
      let (_, words) ← options [] arguments
      match words with
      | [] => return 0
      | name :: _ =>
          let file ← scriptFile name
          match ← ask (.openFile file .read) with
          | .number descriptor =>
              let content ← perform (Program.readAll descriptor Program.readLimit [])
              let _ ← ask (.close descriptor)
              let text := match content with
                | .ok text => text
                | .error _ => ""
              try
                speakingAs file do
                  runSource fuel {} 0 { source := { rest := text.toList } }
              catch
                | .leaveFunction code => return code
                | escape => throw escape
          | .failed error => giveUp (openFailure .input file error)
          | _ => return 0

/-- Become another program, if one is given. -/
def replaceShell : Builtin := fun arguments => do
  match arguments with
  | [] => return 0
  | name :: rest =>
      let candidates := programCandidates (← searchPath) name
      let (message, code) ← perform (becomeProgram name candidates rest (← environment))
      complain message
      throw (.exit code)

/-- Start a program and wait for it, or become it. -/
def runProgram : Nat → Manner → Bool → Octets → List Octets → Shell Unit
  | 0, _, _, _, _ => setStatus 2
  | _ + 1, manner, usesStandardPath, name, arguments => do
      let places := if usesStandardPath then some standardPath else none
      match ← findProgram name places with
      | .error error =>
          complain (startFailure name error)
          setStatus 127
      | .ok path =>
          let candidates ← candidatesFrom name path places
          let exported ← environment
          let become : Shell Unit := do
            let (message, code) ← perform (becomeProgram name candidates arguments exported)
            complain message
            throw (.exit code)
          if manner.last && !(← hasTraps) then become
          else
            let state := { ← get with traps := [] }
            let id ← perform (Program.fork (toTask (fun _ => pure ()) become state))
            awaitForeground [id]

/-- Run the lines of a script one after the other. The result is how the last command of the script
ended. -/
def runSource : Nat → Manner → Nat → Reading → Shell Nat
  | 0, _, status, _ => pure status
  | fuel + 1, manner, status, reading => do
      let state ← get
      let current := { reading with
        aliases := state.aliases, documents := [], nextDocument := state.nextDocument }
      match nextLine current with
      | .error error => giveUpReading error
      | .ok (line, after) =>
          modify fun state => { state with
            documents := after.documents ++ state.documents, nextDocument := after.nextDocument
            sourceLine := after.source.line }
          if reading.isShown && state.isOn "verbose" then
            let before := reading.source.rest
            let consumed := before.take (before.length - after.source.rest.length)
            perform (Program.complain (String.ofList consumed))
          match line with
          | .endOfScript => return status
          | .blank => runSource fuel manner status after
          | .command command =>
              let isLast := manner.last && after.lastToken == .endOfFile
              runCommand fuel { manner with last := isLast } command
              runSource fuel manner (← get).status after

end

end QueryFoundry.Sandbox.Shell
