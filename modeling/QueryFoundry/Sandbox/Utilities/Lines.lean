import QueryFoundry.Sandbox.Condition
import QueryFoundry.Sandbox.Regex.Notation
import QueryFoundry.Sandbox.Utility

/-!
# Programs for lines of text

Selecting, counting and searching lines.
-/

namespace QueryFoundry.Sandbox.Utilities

open Text (Octets)
open Utility (complain usageError errorText forEach)
open Quotation (forShell)

/-- Whether an argument is an option. -/
def isOption (word : Octets) : Bool :=
  word.toList.head? == some '-' && 1 < word.length

/-- Split arguments into options and others; all behind a double dash are others. -/
def splitOptions : List Octets → List Octets × List Octets
  | [] => ([], [])
  | "--" :: rest => ([], rest)
  | word :: rest =>
      let (options, others) := splitOptions rest
      if isOption word then (word :: options, others) else (options, word :: others)

/-- Whether some option holds a letter. -/
def hasLetter (options : List Octets) (letter : Char) : Bool :=
  options.any fun option => option.toList.contains letter && !option.startsWith "--"

/-- Read a file or, for a dash, the input. -/
def readInput (path : Octets) : Program (Except IoError Octets) :=
  if path == "-" then Program.readAll 0 Program.readLimit [] else Program.readFile path

/-- The lines of a text, and whether the last one is ended. -/
def linesOf (text : Octets) : List Octets :=
  let pieces := text.splitOn "\n"
  if pieces.getLast? == some "" then pieces.dropLast else pieces

/-- The number of lines that options ask for, and the other arguments. -/
def lineCount (arguments : List Octets) : Nat × List Octets :=
  match arguments with
  | "-n" :: number :: rest => (number.toNat?.getD 10, rest)
  | word :: rest =>
      if isOption word then
        let digits := word.toList.filter Char.isDigit
        ((String.ofList digits).toNat?.getD 10, rest)
      else (10, arguments)
  | [] => (10, [])

/-- Print some lines of files. -/
def someLines (name : Octets) (select : Nat → List Octets → List Octets) : Utility :=
  fun arguments _ => do
    let (count, others) := lineCount arguments
    let paths := if others.isEmpty then ["-"] else others
    forEach paths fun path => do
      match ← readInput path with
      | .ok content =>
          Program.print (String.join ((select count (linesOf content)).map (· ++ "\n")))
          return true
      | .error error =>
          complain name ("cannot open " ++ forShell path ++ " for reading: " ++ errorText error)
          return false

/-- Count the lines, words and bytes of files. -/
def wordCount : Utility := fun arguments _ => do
  let (options, others) := splitOptions arguments
  let paths := if others.isEmpty then ["-"] else others
  forEach paths fun path => do
    match ← readInput path with
    | .ok content =>
        let characters := content.toList
        let words := (content.toList.splitBy fun left right =>
          left.isWhitespace == right.isWhitespace).filter fun group =>
            !(group.head?.any Char.isWhitespace)
        let counts := (if hasLetter options 'l' || options.isEmpty then
            [characters.count '\n'] else []) ++
          (if hasLetter options 'w' || options.isEmpty then [words.length] else []) ++
          (if hasLetter options 'c' || options.isEmpty then [characters.length] else [])
        let name := if path == "-" then [] else [path]
        Program.print (" ".intercalate (counts.map toString ++ name) ++ "\n")
        return true
    | .error error =>
        complain "wc" (path ++ ": " ++ errorText error)
        return false

/-- Copy the input to the output and to files. -/
def tee : Utility := fun arguments _ => do
  let (options, paths) := splitOptions arguments
  let content ← Program.readAll 0 Program.readLimit []
  let text := match content with
    | .ok text => text
    | .error _ => ""
  Program.print text
  forEach paths fun path => do
    let mode : OpenMode := if hasLetter options 'a' then .append else .truncate
    match ← Program.ask (.openFile path mode) with
    | .number descriptor =>
        Program.write descriptor text
        let _ ← Program.ask (.close descriptor)
        return true
    | .failed error =>
        complain "tee" (path ++ ": " ++ errorText error)
        return false
    | _ => return true

/-- Print numbers in a row. -/
def numberSequence : Utility := fun arguments _ => do
  let numbers := arguments.filterMap Condition.numberOf?
  let (first, step, last) := match numbers with
    | [last] => ((1 : Int), (1 : Int), last)
    | [first, last] => (first, 1, last)
    | first :: step :: last :: _ => (first, step, last)
    | [] => (1, 1, 0)
  let count := if step == 0 then 0 else ((last - first) / step + 1).toNat
  Program.print (String.join ((List.range count).map fun (index : Nat) =>
    toString (first + step * (index : Int)) ++ "\n"))
  return 0

/-- Print the lines of files that match an expression. -/
def grep : Utility := fun arguments _ => do
  let (options, others) := splitOptions arguments
  match others with
  | [] =>
      Program.complain "Usage: grep [OPTION]... PATTERNS [FILE]...\n"
      Program.complain "Try 'grep --help' for more information.\n"
      return 2
  | pattern :: files =>
      let paths := if files.isEmpty then ["-"] else files
      let ignoresCase := hasLetter options 'i'
      match Regex.parse (hasLetter options 'E') ignoresCase pattern.toList with
      | .error problem =>
          complain "grep" problem.message
          return 2
      | .ok (regex, _) =>
          let results ← paths.mapM fun path => do
            match ← readInput path with
            | .ok content =>
                let isMeant (line : Octets) : Bool :=
                  (if hasLetter options 'F' then 1 < (line.splitOn pattern).length
                  else (Regex.find? regex ignoresCase none line.toList.toArray 0).isSome) !=
                    hasLetter options 'v'
                let found := (linesOf content).filter isMeant
                if hasLetter options 'c' then Program.print (toString found.length ++ "\n")
                else if !hasLetter options 'q' then
                  let start := if 1 < paths.length then path ++ ":" else ""
                  Program.print (String.join (found.map fun line => start ++ line ++ "\n"))
                return some (!found.isEmpty)
            | .error error =>
                complain "grep" (path ++ ": " ++ errorText error)
                return none
          return if results.contains none then 2 else if results.contains (some true) then 0 else 1

end QueryFoundry.Sandbox.Utilities
