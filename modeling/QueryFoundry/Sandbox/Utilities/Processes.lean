import QueryFoundry.Sandbox.Condition
import QueryFoundry.Sandbox.Printf
import QueryFoundry.Sandbox.Signal
import QueryFoundry.Sandbox.Utility

/-!
# Programs for processes

Waiting, testing, sending signals, starting programs with other variables.
-/

namespace QueryFoundry.Sandbox.Utilities

open Text (Octets)
open Utility (complain usageError errorText withOptions forEach)
open Quotation (forShell withBackslashes)

/-- The exit code of a program that only has that. -/
def constant (name : Octets) (code : UInt8) : Utility := fun arguments _ => do
  match arguments with
  | ["--version"] => Utility.printed name (Utility.versionLine name) code
  | _ => return code

/-- The nanoseconds that a time denotes: a number with a unit. An endless time is a very long one. -/
def durationOf? (text : Octets) : Option Nat := do
  let (value, behind) ← Printf.readReal? Printf.programRules text.toList
  let factor ← match behind with
    | [] | ['s'] => some 1
    | ['m'] => some 60
    | ['h'] => some 3600
    | ['d'] => some 86400
    | _ => none
  let greatest := 1000000000 * 4000000000
  match value with
  | .infinite false => return greatest
  | .finite negative magnitude =>
      if negative && 0 < magnitude.significand then none
      else
        let scaled := magnitude.significand * factor * 1000000000
        if 0 ≤ magnitude.exponent then
          return min greatest (scaled * Nat.pow 2 (min 200 magnitude.exponent.toNat))
        else
          let divisor := Nat.pow 2 (-magnitude.exponent).toNat
          return min greatest ((scaled + divisor - 1) / divisor)
  | _ => none

/-- Wait for some time. -/
def sleep : Utility :=
  withOptions "sleep" {} 1 fun read _ => do
    match read.operands.filter fun word => (durationOf? word).isNone with
    | [] =>
        if read.operands.isEmpty then usageError "sleep" "missing operand" 1
        else
          let durations := read.operands.filterMap durationOf?
          let _ ← Program.ask (.sleep (durations.foldl Nat.add 0))
          return 0
    | wrong =>
        let message (word : Octets) : Octets := "invalid time interval " ++ withBackslashes word
        wrong.dropLast.forM fun word => complain "sleep" (message word)
        usageError "sleep" (message (wrong.getLast?.getD "")) 1

/-- Test a condition. -/
def test : Utility := fun arguments _ => do
  match ← Condition.evaluate arguments with
  | .ok holds => return if holds then 0 else 1
  | .error message =>
      complain "test" message
      return 2

/-- Test a condition between brackets. -/
def bracket : Utility := fun arguments environment => do
  if arguments.getLast? == some "]" then test arguments.dropLast environment
  else
    complain "[" "missing ']'"
    return 2

/-- Send a signal to processes. -/
def kill : Utility := fun arguments _ => do
  let (signal, targets) := match arguments with
    | "-s" :: name :: rest => (Signal.ofText? name, rest)
    | word :: rest =>
        if word.startsWith "-" && 1 < word.length then (Signal.ofText? (String.ofList (word.toList.drop 1)), rest)
        else (some 15, arguments)
    | [] => (some 15, [])
  match signal with
  | none =>
      complain "kill" "invalid signal"
      return 1
  | some number =>
      forEach targets fun target => do
        match Condition.numberOf? target with
        | none =>
            complain "kill" ("failed to parse argument: " ++ forShell target)
            return false
        | some receiver =>
            match ← Program.attempt (.sendSignal receiver number) with
            | .ok () => return true
            | .error error =>
                complain "kill" ("(" ++ target ++ "): " ++ errorText error)
                return false

/-- The options of the program that starts others. -/
def environmentTable : OptionTable where
  letters := [('C', "C", .always), ('i', "i", .never), ('S', "S", .always), ('u', "u", .always),
    ('v', "v", .never), ('0', "0", .never)]
  words := [("ignore-environment", "i", .never), ("null", "0", .never), ("unset", "u", .always),
    ("chdir", "C", .always), ("default-signal", "signals", .perhaps),
    ("ignore-signal", "signals", .perhaps), ("block-signal", "signals", .perhaps),
    ("list-signal-handling", "signals", .never), ("debug", "v", .never),
    ("split-string", "S", .always)]
  endsAtOperand := true

/-- Give a variable a value. -/
def assign (environment : Environment) (name value : Octets) : Environment :=
  if (environment.lookup name).isSome then
    environment.map fun entry => if entry.1 == name then (name, value) else entry
  else environment ++ [(name, value)]

/-- The name and the value in a word with an equals sign. -/
def assignment? (word : Octets) : Option (Octets × Octets) :=
  let characters := word.toList
  if characters.contains '=' then
    let name := characters.takeWhile (· != '=')
    some (String.ofList name, String.ofList (characters.drop (name.length + 1)))
  else none

/-- Become another program; the result tells why that fails. -/
def become (arguments : List Octets) (environment : Environment) : Program UInt8 := do
  let program := arguments.headD ""
  let path := (environment.lookup "PATH").getD "/bin:/usr/bin"
  let candidates := if program.toList.contains '/' then [program]
    else if program.isEmpty then []
    else (path.splitOn ":").map fun directory =>
      if directory.isEmpty then program else directory ++ "/" ++ program
  let errors ← candidates.mapM fun candidate =>
    Program.attempt (.execute candidate arguments environment)
  let isMissing := errors.all fun
    | .error error => error == .notFound || error == .notADirectory
    | .ok () => false
  complain "env" (withBackslashes program ++ ": " ++
    if isMissing then "No such file or directory" else "Permission denied")
  return if isMissing then 127 else 126

/-- The variables without some that are named; a name that cannot be one is told. -/
def withoutNames (environment : Environment) : List Octets → Except Octets Environment
  | [] => .ok environment
  | name :: rest =>
      if name.isEmpty || name.toList.contains '=' then .error name
      else withoutNames (environment.filter (·.1 != name)) rest

/-- Print the variables, or become another program with other variables. -/
def environmentUtility : Utility :=
  withOptions "env" environmentTable 125 fun read environment => do
    let isBare := read.operands.head? == some "-"
    let words := if isBare then read.operands.drop 1 else read.operands
    let start := if read.has "i" || isBare then [] else environment
    let removed := (read.options.filter (·.1 == "u")).filterMap Prod.snd
    let assignments := words.takeWhile fun word => (assignment? word).isSome
    let command := words.drop assignments.length
    match withoutNames start removed with
    | .error name =>
        complain "env" ("cannot unset " ++ withBackslashes name ++ ": Invalid argument")
        return 125
    | .ok kept =>
        let changed := (assignments.filterMap assignment?).foldl
          (fun environment (name, value) => assign environment name value) kept
        if read.has "0" && !command.isEmpty then
          usageError "env" "cannot specify --null (-0) with command" 125
        else if read.has "C" && command.isEmpty then
          usageError "env" "must specify command with --chdir (-C)" 125
        else
          let entered ← match read.last? "C" with
            | some directory =>
                match ← Program.attempt (.changeDirectory directory) with
                | .ok () => pure none
                | .error error => pure (some (directory, error))
            | none => pure none
          match entered, command with
          | some (directory, error), _ =>
              complain "env" ("cannot change directory to " ++ forShell directory ++ ": " ++
                errorText error)
              return 125
          | none, [] =>
              let ending := if read.has "0" then "\x00" else "\n"
              Utility.printed "env" (String.join (changed.map fun entry =>
                entry.1 ++ "=" ++ entry.2 ++ ending)) 0
          | none, _ => become command changed

end QueryFoundry.Sandbox.Utilities
