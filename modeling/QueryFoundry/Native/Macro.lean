import QueryFoundry.Native.Token
import Std.Data.HashMap

/-!
# Macros

Names that stand for tokens, with or without arguments, and what remains of a list of tokens when
they are put in place of such names. A token that came from a macro is not the name of that macro
again, so every expansion ends.
-/

namespace QueryFoundry.Native

open Text (Octets)

/-- What a macro stands for. -/
structure Macro where
  /-- The names of the arguments; without a list the macro takes none. -/
  parameters : Option (List Octets) := none
  /-- The name of all arguments that are left over. -/
  remainder : Option Octets := none
  body : List Token := []
deriving Repr, Inhabited

/-- The macros that are defined, by name. -/
abbrev Macros := Std.HashMap Octets Macro

/-- Why a source cannot be prepared. -/
inductive PreparationError where
  | missingFile (name : Octets)
  /-- A line that asks for something that there is not. -/
  | invalidLine (name : Octets)
  /-- The source asks to give up. -/
  | refused
  | unterminatedCondition
  | misplacedCondition
  | invalidCondition
  | invalidArguments (name : Octets)
  | invalidPaste (spelling : Octets)
deriving DecidableEq, Repr, Inhabited

namespace Macro

/-- An expansion counts how often the counting macro was used. -/
abbrev Expand (α : Type) := StateT Nat (Except PreparationError) α

/-- Take the place of another token. -/
def inPlaceOf (token : Token) (original : Token) : Token :=
  { token with
    isSpaced := original.isSpaced, line := original.line, startsLine := original.startsLine }

/-- Write an argument as a text. A blank stands wherever tokens were apart. -/
def stringOf (argument : List Token) : Token :=
  let quote (token : Token) : Octets :=
    if token.kind == .text || token.kind == .character then
      String.ofList (token.spelling.toList.flatMap fun character =>
        if character == '"' || character == '\\' then ['\\', character] else [character])
    else token.spelling
  let written := argument.map fun token =>
    (if token.isSpaced then " " else "") ++ quote token
  { kind := .text, spelling := "\"" ++ (String.join written).trimAscii.toString ++ "\"" }

/-- A token that stands for nothing. -/
def nothing : Token := { kind := .stray, spelling := "" }

/-- Put two tokens together into one. -/
def paste (language : Language) (left right : Token) : Expand Token :=
  if left.spelling.isEmpty then pure (inPlaceOf right left)
  else if right.spelling.isEmpty then pure left
  else
    match Token.scan language (left.spelling ++ right.spelling) with
    | [joined] => pure { inPlaceOf joined left with hidden := left.hidden ++ right.hidden }
    | _ => throw (.invalidPaste (left.spelling ++ right.spelling))

/-- Split the tokens behind an opening parenthesis into arguments, up to the parenthesis that closes
it; that one and what follows it are returned too. -/
def arguments? : Nat → List (List Token) → List Token → List Token →
    Option (List (List Token) × Token × List Token)
  | _, _, _, [] => none
  | depth, done, current, token :: rest =>
      let plain := { token with startsLine := false, isSpaced := token.isSpaced || token.startsLine }
      if token.isMark ")" then
        if depth == 0 then some ((current.reverse :: done).reverse, token, rest)
        else arguments? (depth - 1) done (plain :: current) rest
      else if token.isMark "(" then arguments? (depth + 1) done (plain :: current) rest
      else if token.isMark "," && depth == 0 then arguments? depth (current.reverse :: done) [] rest
      else arguments? depth done (plain :: current) rest

/-- Join arguments with the commas that stood between them. -/
def joinArguments : List (List Token) → List Token
  | [] => []
  | [argument] => argument
  | argument :: rest => argument ++ { kind := .mark, spelling := "," } :: joinArguments rest

/-- What the names of the arguments of a macro stand for, if their number is right. -/
def bind? (definition : Macro) (found : List (List Token)) :
    Option (List (Octets × List Token)) := do
  let names ← definition.parameters
  let given := if names.isEmpty && definition.remainder.isNone && found == [[]] then [] else found
  match definition.remainder with
  | none =>
      guard (given.length == names.length)
      return names.zip given
  | some name =>
      guard (names.length ≤ given.length)
      return names.zip given ++ [(name, joinArguments (given.drop names.length))]

/-- An argument as it is written and with the macros in it expanded. -/
structure Argument where
  written : List Token
  expanded : List Token

/-- The tokens of a body up to the parenthesis that closes the present one, and those behind it. -/
def splitGroup : Nat → List Token → List Token → List Token × List Token
  | _, inside, [] => (inside.reverse, [])
  | depth, inside, token :: rest =>
      if token.isMark ")" then
        if depth == 0 then (inside.reverse, rest) else splitGroup (depth - 1) (token :: inside) rest
      else if token.isMark "(" then splitGroup (depth + 1) (token :: inside) rest
      else splitGroup depth (token :: inside) rest

/-- Keep or drop the parts of a body that depend on whether arguments are left over. -/
def chooseOptional (isGiven : Bool) : Nat → List Token → List Token
  | 0, body => body
  | _, [] => []
  | fuel + 1, token :: rest =>
      if token.isWord "__VA_OPT__" && (rest.head?.any fun next => next.isMark "(") then
        let (inside, after) := splitGroup 0 [] (rest.drop 1)
        (if isGiven then inside else []) ++ chooseOptional isGiven fuel after
      else token :: chooseOptional isGiven fuel rest

/-- Put arguments in place of their names in a body; what is done is kept in reverse. -/
def substitute (language : Language) (definition : Macro) (bound : List (Octets × Argument)) :
    Nat → List Token → List Token → Expand (List Token)
  | 0, done, _ => pure done.reverse
  | _, done, [] => pure done.reverse
  | fuel + 1, done, token :: rest => do
      let argumentOf (token : Token) : Option Argument :=
        if token.kind == .word then bound.lookup token.spelling else none
      let continuesPaste := rest.head?.any fun next => next.isMark "##"
      match rest with
      | next :: after =>
          if token.isMark "#" && definition.parameters.isSome then
            if let some argument := argumentOf next then
              let text := { stringOf argument.written with isSpaced := token.isSpaced }
              return ← substitute language definition bound fuel (text :: done) after
          if token.isMark "##" && !done.isEmpty then
            let isComma := (done.head?.any fun last => last.isMark ",") &&
              definition.remainder == some next.spelling
            match argumentOf next, done with
            | some argument, last :: before =>
                if isComma then
                  let kept := if argument.written.isEmpty then before
                    else argument.written.reverse ++ done
                  return ← substitute language definition bound fuel kept after
                match argument.written with
                | [] => return ← substitute language definition bound fuel done after
                | first :: others =>
                    let joined ← paste language last first
                    return ← substitute language definition bound fuel
                      (others.reverse ++ joined :: before) after
            | none, last :: before =>
                let joined ← paste language last next
                return ← substitute language definition bound fuel (joined :: before) after
            | _, [] => pure ()
      | [] => pure ()
      match argumentOf token with
      | none => substitute language definition bound fuel (token :: done) rest
      | some argument =>
          let chosen := if continuesPaste then argument.written else argument.expanded
          let placed := match chosen with
            | [] => if continuesPaste then [nothing] else []
            | first :: others => { first with isSpaced := token.isSpaced } :: others
          substitute language definition bound fuel (placed.reverse ++ done) rest

/-- The tokens that take the place of the use of a macro. -/
def instantiate (language : Language) (definition : Macro) (bound : List (Octets × Argument))
    (hidden : List Octets) (use : Token) : Expand (List Token) := do
  let isGiven := match definition.remainder with
    | some name => (bound.lookup name).any fun argument => !argument.written.isEmpty
    | none => false
  let body := chooseOptional isGiven (definition.body.length + 1) definition.body
  let tokens ← substitute language definition bound (body.length + 1) [] body
  let kept := (tokens.filter (!·.spelling.isEmpty)).map fun token =>
    { token with hidden := hidden ++ token.hidden, line := use.line, startsLine := false }
  match kept with
  | [] => return []
  | first :: rest => return inPlaceOf first use :: rest

/-- Put what they stand for in place of the names of macros, with a bound on the number of steps;
what is done is kept in reverse. -/
def expand (language : Language) (macros : Macros) (file : Octets) :
    Nat → List Token → List Token → Expand (List Token)
  | 0, done, rest => pure (done.reverse ++ rest)
  | _, done, [] => pure done.reverse
  | fuel + 1, done, token :: rest =>
      if token.kind != .word || token.hidden.contains token.spelling then
        expand language macros file fuel (token :: done) rest
      else if token.spelling == "__LINE__" then
        let number : Token := { kind := .number, spelling := toString token.line }
        expand language macros file fuel (inPlaceOf number token :: done) rest
      else if token.spelling == "__FILE__" then
        let name : Token := { kind := .text, spelling := "\"" ++ file ++ "\"" }
        expand language macros file fuel (inPlaceOf name token :: done) rest
      else if token.spelling == "__COUNTER__" then do
        let count ← get
        set (count + 1)
        let number : Token := { kind := .number, spelling := toString count }
        expand language macros file fuel (inPlaceOf number token :: done) rest
      else
        match macros[token.spelling]? with
        | none => expand language macros file fuel (token :: done) rest
        | some definition =>
            if definition.parameters.isNone then do
              let body ← instantiate language definition [] (token.spelling :: token.hidden) token
              expand language macros file fuel done (body ++ rest)
            else
              match rest with
              | [] => expand language macros file fuel (token :: done) rest
              | next :: more =>
                  if !next.isMark "(" then expand language macros file fuel (token :: done) rest
                  else
                    match arguments? 0 [] [] more with
                    | none => throw (.invalidArguments token.spelling)
                    | some (found, close, after) =>
                        match bind? definition found with
                        | none => throw (.invalidArguments token.spelling)
                        | some bound => do
                            let arguments ← bound.mapM fun (name, written) => do
                              return (name, Argument.mk written
                                (← expand language macros file fuel [] written))
                            let shared := token.hidden.filter close.hidden.contains
                            let body ← instantiate language definition arguments
                              (token.spelling :: shared) token
                            expand language macros file fuel done (body ++ after)

end Macro

end QueryFoundry.Native
