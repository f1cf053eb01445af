import QueryFoundry.Sandbox.Regex.Notation

/-!
# Scripts that edit lines

The commands that a stream of lines is edited with, and the lines that they are for.
-/

namespace QueryFoundry.Sandbox.Sed

open Text (Octets)

/-- A regular expression as it is used: without one, that which was used last is meant. -/
structure Pattern where
  regex : Option Regex
  ignoreCase : Bool := false
  hasLines : Bool := false

/-- Lines that a command is for, or where a range of them ends. -/
inductive Address where
  | line (number : Nat)
  | last
  | matching (pattern : Pattern)
  /-- Every so many lines from a line on. -/
  | every (first step : Nat)
  /-- So many lines behind the start of the range. -/
  | following (count : Nat)
  /-- The next line whose number is a multiple. -/
  | multiple (factor : Nat)

/-- The case of letters. -/
inductive Casing where
  | kept
  | upper
  | lower
deriving DecidableEq, Repr

/-- A part of the text that is put in the place of a match: a text and what a group has matched. -/
structure Part where
  text : List Char := []
  group : Option Nat := none
  casing : Casing := .kept
  /-- The case of the first letter, if it has one of its own. -/
  first : Option Casing := none

/-- Where lines are written. -/
inductive Destination where
  /-- Where lines are printed: the file that is changed in place or the standard output. -/
  | output
  /-- The standard output as a file that lines are written to. -/
  | standard
  | errors
  | file (path : Octets)
deriving DecidableEq, Repr

/-- A substitution. -/
structure Substitution where
  pattern : Pattern
  parts : List Part
  everywhere : Bool := false
  /-- The number of the first match that is replaced. -/
  nth : Nat := 0
  /-- Whether the result is printed before it is carried out as a command, and behind that. -/
  printsBefore : Bool := false
  printsAfter : Bool := false
  evaluates : Bool := false
  destination : Option Destination := none

/-- When control goes to another command. -/
inductive Condition where
  | always
  | replaced
  | notReplaced
deriving DecidableEq, Repr

/-- What a command does. -/
inductive Action where
  /-- Start a group of commands, which is passed over up to a place if it is not for a line. -/
  | block (stop : Nat)
  | nothing
  | jump (condition : Condition) (label : Octets) (target : Nat)
  | append (text : List Char)
  | insert (text : List Char)
  | change (text : List Char)
  | substitute (substitution : Substitution)
  | transliterate (pairs : List (Char × Char))
  | delete
  | deleteFirstLine
  | takeHeld (adds : Bool)
  | hold (adds : Bool)
  | exchange
  | next (adds : Bool)
  | print
  | printFirstLine
  | list (width : Option Nat)
  | showNumber
  | showName
  | quit (prints : Bool) (code : Nat)
  | readFile (path : Octets)
  | readLine (path : Octets)
  | write (destination : Destination) (onlyFirstLine : Bool)
  | clear
  | execute (command : List Char)

/-- A command: an address or a range of lines, whether the other lines are meant, and what is done. -/
structure Command where
  start : Option Address := none
  stop : Option Address := none
  negated : Bool := false
  action : Action

/-- A script that can be run. -/
structure Script where
  commands : Array Command
  /-- Whether lines are only printed on demand. -/
  quiet : Bool
  /-- The files that are written. -/
  written : List Octets

/-- Why a script cannot be run: a message and an exit code. The files that are written by what was
read of it are created all the same. -/
structure Problem where
  message : Octets
  code : UInt8 := 1
  written : List Octets := []

/-- A piece of a script: where it comes from and its text. -/
structure Chunk where
  /-- The name of the file, if it comes from one. -/
  file : Option Octets := none
  text : List Char

end QueryFoundry.Sandbox.Sed
