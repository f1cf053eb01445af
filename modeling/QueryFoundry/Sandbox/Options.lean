import QueryFoundry.Text.Octets

/-!
# Options of programs

Arguments of a program are options, which are letters or words, and operands. Words may be
shortened, and options may stand behind operands.
-/

namespace QueryFoundry.Sandbox

open Text (Octets)

/-- Whether an option has an argument. -/
inductive OptionArgument where
  | never
  | always
  /-- If it is written in the same word. -/
  | perhaps
deriving DecidableEq, Repr

/-- The options that a program knows: how each is written, its name and whether it has an argument.
-/
structure OptionTable where
  letters : List (Char × Octets × OptionArgument) := []
  words : List (Octets × Octets × OptionArgument) := []
  /-- Whether options end with the first operand. -/
  endsAtOperand : Bool := false

/-- Why options cannot be read. -/
inductive OptionProblem where
  | unknownLetter (letter : Char)
  | letterNeedsArgument (letter : Char)
  | unknownWord (written : Octets)
  | ambiguousWord (written : Octets) (candidates : List Octets)
  | excessArgument (word : Octets)
  | wordNeedsArgument (word : Octets)
deriving DecidableEq, Repr

/-- The text of a problem. -/
def OptionProblem.message : OptionProblem → Octets
  | unknownLetter letter => "invalid option -- '" ++ String.singleton letter ++ "'"
  | letterNeedsArgument letter =>
      "option requires an argument -- '" ++ String.singleton letter ++ "'"
  | unknownWord written => "unrecognized option '--" ++ written ++ "'"
  | ambiguousWord written candidates =>
      "option '--" ++ written ++ "' is ambiguous; possibilities:" ++
        String.join (candidates.map fun word => " '--" ++ word ++ "'")
  | excessArgument word => "option '--" ++ word ++ "' doesn't allow an argument"
  | wordNeedsArgument word => "option '--" ++ word ++ "' requires an argument"

/-- What the arguments of a program say. -/
structure ReadArguments where
  /-- The names of the options in the order in which they are given, with their arguments. -/
  options : List (Octets × Option Octets) := []
  operands : List Octets := []
  /-- What is wrong behind the options that were read. -/
  problem : Option OptionProblem := none

namespace ReadArguments

/-- Add an option in front. -/
def withOption (name : Octets) (argument : Option Octets) (read : ReadArguments) : ReadArguments :=
  { read with options := (name, argument) :: read.options }

/-- Add an operand in front. -/
def withOperand (operand : Octets) (read : ReadArguments) : ReadArguments :=
  { read with operands := operand :: read.operands }

/-- Whether an option is given. -/
def has (read : ReadArguments) (name : Octets) : Bool :=
  (read.options.lookup name).isSome

/-- The argument of an option where it is given last. -/
def last? (read : ReadArguments) (name : Octets) : Option Octets :=
  (read.options.reverse.lookup name).join

end ReadArguments

namespace OptionTable

/-- The word that is meant by a word that may be shortened. -/
def findWord (table : OptionTable) (written start : Octets) :
    Except OptionProblem (Octets × Octets × OptionArgument) :=
  match table.words.find? (·.1 == start) with
  | some found => .ok found
  | none =>
      match table.words.filter (·.1.startsWith start) with
      | [] => .error (.unknownWord written)
      | first :: others =>
          let different := others.filter (·.2 != first.2)
          if different.isEmpty then .ok first
          else .error (.ambiguousWord written ((first :: different).map Prod.fst))

/-- What some letters of one argument say: the options, and an option that needs the next argument.
-/
def readLetters (table : OptionTable) :
    List Char → Except (List (Octets × Option Octets) × OptionProblem)
      (List (Octets × Option Octets) × Option (Char × Octets))
  | [] => .ok ([], none)
  | letter :: rest =>
      match table.letters.lookup letter with
      | none => .error ([], .unknownLetter letter)
      | some (name, argument) =>
          let attached := if rest.isEmpty then none else some (String.ofList rest)
          match argument, attached with
          | .always, none => .ok ([], some (letter, name))
          | .always, some text => .ok ([(name, some text)], none)
          | .perhaps, _ => .ok ([(name, attached)], none)
          | .never, _ =>
              match table.readLetters rest with
              | .ok (options, open?) => .ok ((name, none) :: options, open?)
              | .error (options, problem) => .error ((name, none) :: options, problem)

/-- Read the arguments of a program. -/
def read (table : OptionTable) : List Octets → ReadArguments
  | [] => {}
  | argument :: rest =>
      match argument.toList with
      | ['-', '-'] => { operands := rest }
      | '-' :: '-' :: characters =>
          let written := String.ofList characters
          let start := String.ofList (characters.takeWhile (· != '='))
          let given := if characters.contains '=' then
              some (String.ofList (characters.drop (start.length + 1))) else none
          match table.findWord written start with
          | .error problem => { problem := some problem }
          | .ok (word, name, takes) =>
              match takes, given with
              | .never, some _ => { problem := some (.excessArgument word) }
              | .always, none =>
                  match rest with
                  | [] => { problem := some (.wordNeedsArgument word) }
                  | following :: behind => (table.read behind).withOption name (some following)
              | _, _ => (table.read rest).withOption name given
      | '-' :: letter :: letters =>
          match table.readLetters (letter :: letters) with
          | .error (options, problem) => { options, problem := some problem }
          | .ok (options, none) =>
              let behind := table.read rest
              { behind with options := options ++ behind.options }
          | .ok (options, some (last, name)) =>
              match rest with
              | [] => { options, problem := some (.letterNeedsArgument last) }
              | following :: behind =>
                  let later := table.read behind
                  { later with options := options ++ (name, some following) :: later.options }
      | _ =>
          if table.endsAtOperand then { operands := argument :: rest }
          else (table.read rest).withOperand argument

end OptionTable

end QueryFoundry.Sandbox
