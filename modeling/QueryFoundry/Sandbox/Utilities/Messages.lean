import QueryFoundry.Sandbox.Printf
import QueryFoundry.Sandbox.Utility

/-!
# Programs that print their arguments

Printing words, formats and the working directory.
-/

namespace QueryFoundry.Sandbox.Utilities

open Text (Octets)
open Utility (complain usageError errorText withOptions)
open Quotation (withBackslashes)

/-- Whether a path can be taken as the name of the working directory: it is absolute, has no dots as
components and leads there. -/
def namesWorkingDirectory (path : Octets) : Program Bool := do
  let isPlain := path.toList.head? == some '/' &&
    (path.splitOn "/").all fun component => component != "." && component != ".."
  if !isPlain then return false
  else
    match ← Program.inspect? path, ← Program.inspect? "." with
    | some (_, named, _), some (_, current, _) => return named == current
    | _, _ => return false

/-- Print the working directory. -/
def printDirectory : Utility :=
  let table : OptionTable := {
    letters := [('L', "L", .never), ('P', "P", .never)]
    words := [("logical", "L", .never), ("physical", "P", .never)] }
  withOptions "pwd" table 1 fun read environment => do
    if !read.operands.isEmpty then complain "pwd" "ignoring non-option arguments"
    let isLogical := ((read.options.map Prod.fst).getLast?).any (· == "L")
    let name := (environment.lookup "PWD").getD ""
    let isNamed ← if isLogical then namesWorkingDirectory name else pure false
    let path ← if isNamed then pure name else Program.workingDirectory
    Utility.printed "pwd" (path ++ "\n") 0

/-- Print arguments. -/
def echo : Utility := fun arguments _ => do
  let isFlag (word : Octets) : Bool :=
    1 < word.length && word.startsWith "-" &&
      (word.toList.drop 1).all fun letter => ['n', 'e', 'E'].contains letter
  let flags := arguments.takeWhile isFlag
  let letters := flags.flatMap fun word => word.toList.drop 1
  let text := " ".intercalate (arguments.drop flags.length)
  let unescapes := (letters.filter (· != 'n')).getLast? == some 'e'
  let unescaped : Printf.Unescaped :=
    if unescapes then Printf.unescape Printf.programRules text else { text := text.toList }
  let ending := if letters.contains 'n' || unescaped.stopped then [] else ['\n']
  Utility.printed "echo" (String.ofList (unescaped.text ++ ending)) 0

/-- The complaint about an argument of a format. -/
def faultMessage (argument : Octets) : Printf.Fault → Octets
  | .notNumeric => withBackslashes argument ++ ": expected a numeric value"
  | .incomplete => withBackslashes argument ++ ": value not completely converted"
  | .outOfRange => withBackslashes argument ++ ": Numerical result out of range"
  | .ignored text =>
      "warning: " ++ text ++
        ": character(s) following character constant have been ignored"

/-- The complaint about a format. -/
def failureMessage : Printf.Failure → Octets
  | .unknownDirective written => written ++ ": invalid conversion specification"
  | .missingCharacter => "%: invalid conversion specification"
  | .missingDigits => "missing hexadecimal number in escape"
  | .invalidNumber written => "invalid universal character name " ++ written
  | .widthTooLarge argument => "invalid field width: " ++ withBackslashes argument
  | .precisionTooLarge argument => "invalid precision: " ++ withBackslashes argument

/-- Print a text, of which so much was printed, with complaints at their places. -/
def printWithFaults (text : List Char) : Nat → List (Nat × Octets × Printf.Fault) → Program Unit
  | start, [] => Program.print (String.ofList (text.drop start))
  | start, (place, argument, fault) :: rest => do
      Program.print (String.ofList ((text.drop start).take (place - start)))
      complain "printf" (faultMessage argument fault)
      printWithFaults text place rest

/-- Print a format with arguments. -/
def printf : Utility := fun arguments _ => do
  let words := if arguments.head? == some "--" then arguments.drop 1 else arguments
  match arguments, words with
  | ["--version"], _ => Utility.printed "printf" (Utility.versionLine "printf") 0
  | ["--help"], _ => Utility.printed "printf" "Usage: printf FORMAT [ARGUMENT]...\n" 0
  | _, [] => usageError "printf" "missing operand" 1
  | _, format :: rest =>
      let outcome := Printf.print Printf.programRules format rest
      let isWrong := outcome.faults.any fun (_, _, fault) => !(fault matches .ignored _)
      if outcome.faults.isEmpty && outcome.failure.isNone && outcome.stopped then
        Utility.printed "printf" (String.ofList outcome.output) 0
      else if outcome.faults.isEmpty && outcome.failure.isNone && outcome.rest.isEmpty then
        Utility.printed "printf" (String.ofList outcome.output) 0
      else
        printWithFaults outcome.output 0 outcome.faults
        match outcome.failure with
        | some failure =>
            complain "printf" (failureMessage failure)
            return 1
        | none =>
            if outcome.stopped then return 0
            else
              if !outcome.rest.isEmpty then
                complain "printf" ("warning: ignoring excess arguments, starting with " ++
                  withBackslashes (outcome.rest.headD ""))
              return if isWrong then 1 else 0

end QueryFoundry.Sandbox.Utilities
