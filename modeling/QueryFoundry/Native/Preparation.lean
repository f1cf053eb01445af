import QueryFoundry.Native.Condition
import QueryFoundry.Native.Headers
import QueryFoundry.Sandbox.Task

/-!
# Preparing native sources

The lines of a source that start with a number sign are carried out: files are included, macros are
defined, and parts of the source are left out. What remains is a list of tokens.
-/

namespace QueryFoundry.Native

open Text (Octets)
open Sandbox (Program)

/-- Whether the lines at some depth of conditions are used. -/
structure Branch where
  /-- Whether the lines that come now are used. -/
  isActive : Bool
  /-- Whether no other branch can be used any more. -/
  isSettled : Bool
  /-- Whether the last branch has been reached. -/
  isLast : Bool := false
deriving DecidableEq, Repr

/-- What the preparation has come to. -/
structure Preparation where
  language : Language
  /-- The file that is read. -/
  file : Octets := ""
  /-- The directories that files are looked for in. -/
  places : List Octets := []
  macros : Macros := {}
  branches : List Branch := []
  /-- The files that are not included again. -/
  once : List Octets := []
  /-- The tokens that may still hold macros, the last one first. -/
  pending : List Token := []
  /-- The tokens that are done, the last one first. -/
  tokens : List Token := []
  /-- How often the counting macro was used. -/
  count : Nat := 0

/-- A part of a preparation, which may read files in some way. -/
abbrev Prepare (m : Type → Type) (α : Type) :=
  ReaderT (Octets → m (Except IoError Octets))
    (ExceptT PreparationError (StateT Preparation m)) α

namespace Prepare

variable {m : Type → Type} [Monad m]

/-- Read a file. -/
def readFile (path : Octets) : Prepare m (Except IoError Octets) := fun reader =>
  ExceptT.lift (StateT.lift (reader path))

/-- Whether the present lines are used. -/
def isActive : Prepare m Bool := do
  return (← get).branches.all (·.isActive)

/-- A bound on the number of steps of an expansion. -/
def expansionLimit : Nat := 10000000

/-- Put what they stand for in place of the macros in a list of tokens. -/
def expanded (tokens : List Token) : Prepare m (List Token) := do
  let preparation ← get
  let expansion := Macro.expand preparation.language preparation.macros preparation.file
    expansionLimit [] tokens
  match expansion.run preparation.count with
  | .error error => throw error
  | .ok (result, count) =>
      modify fun preparation => { preparation with count }
      return result

/-- Leave out the hints in a list of tokens, which mean nothing here. -/
def dropHints : Nat → List Token → List Token
  | 0, tokens => tokens
  | _, [] => []
  | fuel + 1, token :: rest =>
      if token.isWord "_Pragma" then dropHints fuel (rest.drop 3)
      else token :: dropHints fuel rest

/-- Finish the tokens that were kept back. -/
def flush : Prepare m Unit := do
  let pending := (← get).pending.reverse
  modify fun preparation => { preparation with pending := [] }
  let done := dropHints (pending.length + 1) (← expanded pending)
  modify fun preparation => { preparation with tokens := done.reverse ++ preparation.tokens }

/-- Define a macro by the tokens behind the word that asks for it. -/
def define : List Token → Prepare m Unit
  | [] => throw (.invalidLine "define")
  | name :: rest => do
      if name.kind != .word || name.spelling == "defined" then throw (.invalidLine "define")
      let definition ← match rest with
        | next :: more =>
            if next.isMark "(" && !next.isSpaced then
              let names := more.takeWhile fun token => !token.isMark ")"
              let body := more.drop (names.length + 1)
              if more.length == names.length then throw (.invalidLine "define")
              let words := names.filter fun token => !token.isMark ","
              let plain := (words.filter fun token => token.kind == .word).map (·.spelling)
              let hasRemainder := words.getLast?.any fun token => token.isMark "..."
              let isNamed := hasRemainder && (words.dropLast.getLast?.any fun token =>
                token.kind == .word) && !((names.dropLast.getLast?).any fun token =>
                  token.isMark ",")
              pure { parameters := some (if isNamed then plain.dropLast else plain)
                     remainder := if isNamed then plain.getLast?
                       else if hasRemainder then some "__VA_ARGS__" else none
                     body }
            else pure ({ body := rest } : Macro)
        | [] => pure {}
      if (definition.body.head?.any fun token => token.isMark "##") ||
          (definition.body.getLast?.any fun token => token.isMark "##") then
        throw (.invalidLine "define")
      modify fun preparation => { preparation with
        macros := preparation.macros.insert name.spelling definition }

/-- The first of some files that can be read, with its content. -/
def readFirst : List Octets → Prepare m (Option (Octets × Octets))
  | [] => pure none
  | path :: others => do
      match ← readFile path with
      | .ok content => return some (path, content)
      | .error _ => readFirst others

/-- The directory part of a path, with its separator. -/
def directoryOf (path : Octets) : Octets :=
  String.ofList (path.toList.reverse.dropWhile (· != '/')).reverse

/-- The files that an included name may mean. -/
def candidates (preparation : Preparation) (name : Octets) (isLocal : Bool) : List Octets :=
  let searched := preparation.places.map fun place => place ++ "/" ++ name
  if name.startsWith "/" then [name]
  else if isLocal then (directoryOf preparation.file ++ name) :: searched else searched

/-- The included file with a name, and its content. -/
def find? (name : Octets) (isLocal : Bool) : Prepare m (Option (Octets × Octets)) := do
  let preparation ← get
  match ← readFirst (candidates preparation name isLocal) with
  | some found => return some found
  | none => return (Headers.text? preparation.language name).map (("<" ++ name ++ ">"), ·)

/-- The name of an included file, and whether it is looked for beside the present one first. -/
def includedName? : List Token → Option (Octets × Bool)
  | [] => none
  | token :: rest =>
      if token.kind == .text then
        some (String.ofList ((token.spelling.toList.drop 1).dropLast), true)
      else if token.isMark "<" then
        let inside := rest.takeWhile fun next => !next.isMark ">"
        some (String.join (inside.map (·.spelling)), false)
      else none

/-- Answer the questions of a condition that macros must not touch. -/
def answerQuestions : Nat → List Token → Prepare m (List Token)
  | 0, tokens => pure tokens
  | _, [] => pure []
  | fuel + 1, token :: rest => do
      let truth (value : Bool) : Token :=
        { kind := .number, spelling := if value then "1" else "0" }
      let isDefined (name : Octets) : Prepare m Bool := do
        return (← get).macros.contains name ||
          ["__LINE__", "__FILE__", "__COUNTER__", "__has_include"].contains name
      if token.isWord "defined" then
        match rest with
        | open_ :: name :: close :: after =>
            if open_.isMark "(" && close.isMark ")" then
              return truth (← isDefined name.spelling) :: (← answerQuestions fuel after)
            else if open_.kind == .word then
              return truth (← isDefined open_.spelling) ::
                (← answerQuestions fuel (name :: close :: after))
            else throw .invalidCondition
        | name :: after =>
            if name.kind == .word then
              return truth (← isDefined name.spelling) :: (← answerQuestions fuel after)
            else throw .invalidCondition
        | [] => throw .invalidCondition
      else if token.isWord "__has_include" then
        let inside := (rest.drop 1).takeWhile fun next => !next.isMark ")"
        match includedName? inside with
        | some (name, isLocal) =>
            let found ← find? name isLocal
            return truth found.isSome :: (← answerQuestions fuel (rest.drop (inside.length + 2)))
        | none => throw .invalidCondition
      else return token :: (← answerQuestions fuel rest)

/-- Whether a condition holds. -/
def holds (condition : List Token) : Prepare m Bool := do
  let answered ← answerQuestions (condition.length + 1) condition
  match Condition.holds? (← expanded answered) with
  | some value => return value
  | none => throw .invalidCondition

/-- Enter a condition. -/
def enter (condition : Prepare m Bool) : Prepare m Unit := do
  let branch ← if ← isActive then do
      let value ← condition
      pure ⟨value, value, false⟩
    else pure ⟨false, true, false⟩
  modify fun preparation => { preparation with branches := branch :: preparation.branches }

/-- Go on to another branch of a condition. -/
def otherwise (isLast : Bool) (condition : Prepare m Bool) : Prepare m Unit := do
  match (← get).branches with
  | [] => throw .misplacedCondition
  | branch :: outer =>
      if branch.isLast then throw .misplacedCondition
      let value ← if branch.isSettled then pure false else do
        modify fun preparation => { preparation with branches := outer }
        condition
      modify fun preparation => { preparation with
        branches := ⟨value, branch.isSettled || value, isLast⟩ :: outer }

/-- Include the file that is named behind the word that asks for it. -/
def includeFile (process : Octets → Octets → Prepare m Unit) (rest : List Token) : Prepare m Unit := do
  let named ← match includedName? rest with
    | some named => pure (some named)
    | none => do pure (includedName? (← expanded rest))
  match named with
  | none => throw (.invalidLine "include")
  | some (name, isLocal) =>
      match ← find? name isLocal with
      | none => throw (.missingFile name)
      | some (path, content) =>
          if !(← get).once.contains path then
            let outer := (← get).file
            modify fun preparation => { preparation with file := path }
            process path content
            modify fun preparation => { preparation with file := outer }

/-- Carry out a line behind its number sign. -/
def obey (process : Octets → Octets → Prepare m Unit) (line : List Token) : Prepare m Unit := do
  let nameOf (rest : List Token) : Prepare m Octets :=
    match rest with
    | name :: _ => if name.kind == .word then pure name.spelling else throw (.invalidLine "ifdef")
    | [] => throw (.invalidLine "ifdef")
  let isDefined (rest : List Token) : Prepare m Bool := do
    return (← get).macros.contains (← nameOf rest)
  match line with
  | [] => pure ()
  | word :: rest =>
      match word.spelling with
      | "if" => enter (holds rest)
      | "ifdef" => enter (isDefined rest)
      | "ifndef" => enter do return !(← isDefined rest)
      | "elif" => otherwise false (holds rest)
      | "elifdef" => otherwise false (isDefined rest)
      | "elifndef" => otherwise false do return !(← isDefined rest)
      | "else" => otherwise true (pure true)
      | "endif" =>
          match (← get).branches with
          | [] => throw .misplacedCondition
          | _ :: outer => modify fun preparation => { preparation with branches := outer }
      | name =>
          if ← isActive then
            match name with
            | "define" => define rest
            | "undef" =>
                let undefined ← nameOf rest
                modify fun preparation => { preparation with
                  macros := preparation.macros.erase undefined }
            | "include" | "include_next" | "import" => includeFile process rest
            | "pragma" =>
                if rest.head?.any fun next => next.isWord "once" then
                  modify fun preparation => { preparation with
                    once := preparation.file :: preparation.once }
            | "error" => throw .refused
            | "warning" | "line" | "ident" => pure ()
            | _ =>
                if word.kind != .number then throw (.invalidLine name)

/-- Split tokens into lines. -/
def splitLines (tokens : List Token) : List (List Token) :=
  (tokens.foldr (fun token (lines : List (List Token)) =>
    match lines with
    | [] => if token.startsLine then [[], [token]] else [[token]]
    | first :: rest =>
        if token.startsLine then [] :: (token :: first) :: rest else (token :: first) :: rest)
    []).filter (!·.isEmpty)

/-- Carry out lines one after the other. -/
def processLines (process : Octets → Octets → Prepare m Unit) : List (List Token) → Prepare m Unit
  | [] => pure ()
  | line :: rest => do
      match line with
      | sign :: words =>
          if sign.isMark "#" then
            flush
            obey process words
          else if ← isActive then
            modify fun preparation => { preparation with
              pending := line.reverse ++ preparation.pending }
      | [] => pure ()
      processLines process rest

/-- Prepare the content of a file, with a bound on how deeply files include each other. -/
def processFile : Nat → Octets → Octets → Prepare m Unit
  | 0, name, _ => throw (.missingFile name)
  | depth + 1, _, content => do
      let outer := (← get).branches
      modify fun preparation => { preparation with branches := [] }
      processLines (processFile depth) (splitLines (Token.scan (← get).language content))
      flush
      if !(← get).branches.isEmpty then throw .unterminatedCondition
      modify fun preparation => { preparation with branches := outer }

/-- How deeply files may include each other. -/
def includeDepth : Nat := 200

end Prepare

/-- What is asked of a preparation. -/
structure PreparationOrder where
  language : Language
  /-- The number of the version of the language. -/
  version : Octets
  /-- Whether only names that the language keeps for itself are defined. -/
  isStrict : Bool := false
  /-- The directories that files are looked for in. -/
  places : List Octets := []
  /-- Lines that stand in front of the source. -/
  preamble : Octets := ""
  /-- Files that are included in front of the source. -/
  included : List Octets := []

/-- The lines that define the macros that every source has. -/
def predefined (order : PreparationOrder) : Octets :=
  let version := match order.language with
    | .c => "#define __STDC_VERSION__ " ++ order.version ++ "\n"
    | .cpp => "#define __cplusplus " ++ order.version ++ "\n#define __GNUG__ 13\n" ++
        "#define _GNU_SOURCE 1\n#define __EXCEPTIONS 1\n#define __GXX_RTTI 1\n"
  let names := if order.isStrict then "#define __STRICT_ANSI__ 1\n"
    else "#define linux 1\n#define unix 1\n"
  version ++ names ++ Headers.predefined

/-- The tokens of a source file, where other files can be read in some way. -/
def prepareWith {m : Type → Type} [Monad m] (reader : Octets → m (Except IoError Octets))
    (order : PreparationOrder) (file content : Octets) :
    m (Except PreparationError (List Token)) := do
  let included := String.join (order.included.map fun name =>
    "#include \"" ++ name ++ "\"\n")
  let all : Prepare m Unit := do
    Prepare.processFile 1 "" (predefined order ++ order.preamble)
    Prepare.processFile Prepare.includeDepth "" included
    modify fun preparation => { preparation with file }
    Prepare.processFile Prepare.includeDepth file content
  let start : Preparation := { language := order.language, places := order.places }
  let (result, preparation) ← ((all.run reader).run).run start
  return result.map fun _ => preparation.tokens.reverse

/-- The tokens of a source file. -/
def prepare (order : PreparationOrder) (file content : Octets) :
    Program (Except PreparationError (List Token)) :=
  prepareWith Program.readFile order file content

/-- The tokens of a source that includes only headers of the system. -/
def prepareAlone (order : PreparationOrder) (content : Octets) :
    Except PreparationError (List Token) :=
  Id.run (prepareWith (fun _ => pure (Except.error IoError.notFound)) order "" content)

end QueryFoundry.Native
