import QueryFoundry.Native.Executable
import QueryFoundry.Native.Source
import QueryFoundry.Sandbox.Utility

/-!
# The compiler

Compilers of the in-memory machine: sources are prepared and compiled, and what comes of them is put
together to a library or a program. The files that are written hold the prepared sources, so they can
be compiled again when they are loaded.
-/

namespace QueryFoundry.Native

open Text (Octets)
open Sandbox (Machine Program)

/-! ## Files -/

/-- Compiled sources as they are kept in a file. -/
structure Binary where
  linkage : Linkage := {}
  units : List SourceUnit := []

namespace Binary

/-- What the bytes of a file start with that is to be put together with others. -/
def objectMark : Octets := "\x7fELF object\n"

/-- The words that stand in a file for how its sources belong together. -/
def linkageWords (linkage : Linkage) : List Octets :=
  [("c++", linkage.hasCppRuntime), ("now", linkage.isEager), ("main", linkage.isProgram)].filterMap
    fun (word, holds) => if holds then some word else none

/-- The bytes of a file. -/
def write (binary : Binary) (mark : Octets) : Octets :=
  mark ++ " ".intercalate (linkageWords binary.linkage) ++ "\n" ++
    String.join (binary.units.map SourceUnit.write)

/-- Read the bytes of a file back. -/
def read? (mark image : Octets) : Option Binary := do
  let content := (← Machine.dropText? mark image).toList
  let word := content.takeWhile (· != '\n')
  let units ← SourceUnit.readAll? (content.length + 1) (content.drop (word.length + 1))
  let words := (String.ofList word).splitOn " "
  let linkage : Linkage :=
    { hasCppRuntime := words.contains "c++", isEager := words.contains "now"
      isProgram := words.contains "main" }
  return { linkage, units }

/-- Compile all sources. -/
def compile (binary : Binary) : Except SourceError (List CompiledUnit) :=
  binary.units.mapM SourceUnit.compile

end Binary

namespace Compiler

/-! ## What is asked for -/

/-- What is to be made of sources. -/
inductive Goal where
  | program
  | library
  | object
  /-- Only a check, or a text that nobody needs. -/
  | nothing
deriving DecidableEq, Repr

/-- A file that is given to a compiler. -/
structure Input where
  path : Octets
  /-- The language, where it does not follow from the name. -/
  language : Option Octets
deriving Repr

/-- What a compiler is asked to do. -/
structure Order where
  output : Option Octets := none
  goal : Goal := .program
  /-- The language of the files that follow. -/
  language : Option Octets := none
  inputs : List Input := []
  places : List Octets := []
  /-- Directories that are searched behind all others. -/
  lastPlaces : List Octets := []
  libraries : List Octets := []
  libraryPlaces : List Octets := []
  included : List Octets := []
  /-- Lines in front of each source. -/
  preamble : Octets := ""
  standard : Option Octets := none
  hidesSymbols : Bool := false
  /-- Whether all symbols must be found. -/
  isComplete : Bool := false
  /-- Whether all functions are looked for when a library is loaded. -/
  isEager : Bool := false
  hasCppRuntime : Bool := false
  /-- An option without its value. -/
  incomplete : Option Octets := none
  /-- Options that do not exist. -/
  unknown : List Octets := []

/-- The options whose value may stand in the next argument. -/
def valueOptions : List Octets :=
  ["-o", "-x", "-I", "-L", "-l", "-D", "-U", "-include", "-isystem", "-iquote", "-idirafter", "-MF",
    "-MT", "-MQ", "-Xlinker", "-Xassembler", "-Xpreprocessor", "-z", "-u", "-T", "-e"]

/-- The options whose value may follow in the same argument. -/
def joinedOptions : List Octets := ["-o", "-x", "-I", "-L", "-l", "-D", "-U"]

/-- The line that defines a macro as an option says. -/
def definition (text : Octets) : Octets :=
  let name := text.toList.takeWhile (· != '=')
  if name.length == text.length then "#define " ++ text ++ " 1\n"
  else "#define " ++ String.ofList name ++ " " ++ String.ofList (text.toList.drop (name.length + 1)) ++
    "\n"

namespace Order

/-- Add lines in front of each source. -/
def addLines (order : Order) (lines : Octets) : Order :=
  { order with preamble := order.preamble ++ lines }

/-- Take an option of the linker. -/
def takeLinker (order : Order) (option : Octets) : Order :=
  if ["--no-undefined", "defs"].contains option then { order with isComplete := true }
  else if option == "now" then { order with isEager := true }
  else if option == "lazy" then { order with isEager := false }
  else order

/-- Take an option with its value. -/
def take (order : Order) (option value : Octets) : Order :=
  match option with
  | "-o" => { order with output := some value }
  | "-x" => { order with language := if value == "none" then none else some value }
  | "-I" | "-iquote" => { order with places := order.places ++ [value] }
  | "-isystem" | "-idirafter" => { order with lastPlaces := order.lastPlaces ++ [value] }
  | "-D" => order.addLines (definition value)
  | "-U" => order.addLines ("#undef " ++ value ++ "\n")
  | "-include" => { order with included := order.included ++ [value] }
  | "-l" => { order with libraries := order.libraries ++ [value] }
  | "-L" => { order with libraryPlaces := order.libraryPlaces ++ [value] }
  | "-z" | "-Xlinker" => order.takeLinker value
  | _ => order

/-- The starts of options that change nothing here. -/
def idleStarts : List Octets :=
  ["-f", "-W", "-m", "-O", "-g", "-p", "-M", "-std=", "-d", "-B", "-static", "-no-pie", "-nostd",
    "-nodefaultlibs", "-nostartfiles", "-rdynamic", "-s", "-v", "-w", "-ansi", "-pedantic", "-H",
    "-C", "-P", "-Q", "-save-temps", "-time", "-i", "-undef", "-u", "-z", "-T", "-e", "-r", "-no"]

/-- Take an argument that stands for itself. -/
def readOne (order : Order) (argument : Octets) : Order :=
  let first := String.ofList (argument.toList.take 2)
  let rest := String.ofList (argument.toList.drop 2)
  if !argument.startsWith "-" || argument == "-" then
    { order with inputs := order.inputs ++ [⟨argument, order.language⟩] }
  else if argument == "-shared" then { order with goal := .library }
  else if argument == "-c" then { order with goal := .object }
  else if ["-E", "-S", "-fsyntax-only", "-M", "-MM"].contains argument then
    { order with goal := .nothing }
  else if argument.startsWith "-std=" then
    { order with standard := some (String.ofList (argument.toList.drop 5)) }
  else if argument == "-ansi" then { order with standard := some "ansi" }
  else if argument == "-fvisibility=hidden" then { order with hidesSymbols := true }
  else if argument == "-fvisibility=default" then { order with hidesSymbols := false }
  else if argument.startsWith "-Wl," then
    (argument.splitOn ",").foldl takeLinker order
  else if argument.startsWith "-O" && argument != "-O0" then
    order.addLines "#define __OPTIMIZE__ 1\n#undef __NO_INLINE__\n"
  else if argument == "-pthread" then order.addLines "#define _REENTRANT 1\n"
  else if joinedOptions.contains first then order.take first rest
  else if idleStarts.any (argument.startsWith ·) then order
  else { order with unknown := order.unknown ++ [argument] }

/-- Read the arguments of a compiler. -/
def read (order : Order) : List Octets → Order
  | [] => order
  | [option] =>
      if valueOptions.contains option then { order with incomplete := some option }
      else order.readOne option
  | option :: value :: rest =>
      if valueOptions.contains option then (order.take option value).read rest
      else (order.readOne option).read (value :: rest)

end Order

/-! ## Versions of the languages -/

/-- The versions of a language by their names. -/
def versions : Language → List (Octets × Nat)
  | .c => [("89", 0), ("90", 0), ("9x", 199901), ("99", 199901), ("1x", 201112), ("11", 201112),
      ("17", 201710), ("18", 201710), ("2x", 202000)]
  | .cpp => [("98", 199711), ("03", 199711), ("0x", 201103), ("11", 201103), ("1y", 201402),
      ("14", 201402), ("1z", 201703), ("17", 201703), ("2a", 202002), ("20", 202002),
      ("2b", 202100), ("23", 202100)]

/-- The names of the versions of a language start like this. -/
def versionStarts : Language → List Octets
  | .c => ["c", "gnu"]
  | .cpp => ["c++", "gnu++"]

/-- The version of a language that a name stands for, and whether nothing is added to it. -/
def versionNamed? (language : Language) (name : Octets) : Option (Nat × Bool) :=
  if name == "ansi" then some (if language == .c then 0 else 199711, true)
  else if name == "iso9899:1990" && language == .c then some (0, true)
  else if name == "iso9899:1999" && language == .c then some (199901, true)
  else if name == "iso9899:2011" && language == .c then some (201112, true)
  else (versionStarts language).findSome? fun start =>
    (versions language).findSome? fun (ending, version) =>
      if name == start ++ ending then some (version, !start.startsWith "gnu") else none

/-- The version that a source is written in, unless another one is asked for. -/
def usualVersion : Language → Nat
  | .c => 201710
  | .cpp => 201703

/-- The version of a language that an order asks for. One of the other language does not count. -/
def Order.version (order : Order) (language : Language) : Nat × Bool :=
  (order.standard.bind (versionNamed? language)).getD (usualVersion language, false)

/-- Whether the name of a version makes no sense. -/
def Order.hasUnknownVersion (order : Order) : Bool :=
  order.standard.any fun name =>
    (versionNamed? .c name).isNone && (versionNamed? .cpp name).isNone

/-! ## Compiling -/

/-- Complain about a file. -/
def complainAbout (path message : Octets) : Program Unit :=
  Program.complain (path ++ ": error: " ++ message ++ "\n")

/-- Say that a compilation is over. -/
def giveUp (name message : Octets) : Program UInt8 := do
  Program.complain (name ++ ": fatal error: " ++ message ++ "\ncompilation terminated.\n")
  return 1

/-- The endings of the names of sources in C++. -/
def cppEndings : List Octets := [".cpp", ".cc", ".cxx", ".C", ".cp", ".c++", ".hpp", ".hh"]

/-- The language of a file, unless the file is to be linked as it is. -/
def languageOf? (default : Language) (input : Input) : Option Language :=
  match input.language with
  | some name => some ((Language.ofMark? name).getD .c)
  | none =>
      if cppEndings.any (input.path.endsWith ·) then some .cpp
      else if [".c", ".h", ".i"].any (input.path.endsWith ·) then some default
      else none

/-- What the name of a file is without its directory and its ending. -/
def stemOf (path : Octets) : Octets :=
  let name := (Machine.baseName path).toList
  if name.contains '.' then
    String.ofList ((name.reverse.dropWhile (· != '.')).drop 1).reverse
  else String.ofList name

/-- The message about a source that makes no sense. -/
def messageOf : SourceError → Octets
  | .unreadable error => "expected '" ++ error.expected ++ "'" ++ match error.token with
      | some token => " before '" ++ token.spelling ++ "' token"
      | none => " at end of input"
  | .meaningless (.undeclared name) => "'" ++ name ++ "' was not declared in this scope"
  | .meaningless (.redeclared name) => "redefinition of '" ++ name ++ "'"
  | .meaningless (.noMember name) => "no member named '" ++ name ++ "'"
  | .meaningless (.noMatch name) => "no matching function for call to '" ++ name ++ "'"
  | .meaningless (.ambiguous name) => "call of overloaded '" ++ name ++ "' is ambiguous"
  | .meaningless (.inaccessible name) => "'" ++ name ++ "' is private within this context"
  | .meaningless (.deleted name) => "use of deleted function '" ++ name ++ "'"
  | .meaningless (.mismatch what) => "invalid conversion or operand of " ++ what
  | .meaningless (.incomplete name) => "invalid use of incomplete type '" ++ name ++ "'"
  | .meaningless .notConstant => "the value of the expression is not usable in a constant"
  | .meaningless (.invalid what) => "invalid " ++ what
  | .meaningless .tooDeep => "nesting is too deep"

/-- The message about a source that cannot be prepared. -/
def preparationMessage : PreparationError → Octets
  | .missingFile name => "fatal error: " ++ name ++
      ": No such file or directory\ncompilation terminated.\n"
  | .refused => "error: #error\n"
  | .invalidLine name => "error: invalid directive #" ++ name ++ "\n"
  | .unterminatedCondition => "error: unterminated conditional directive\n"
  | .misplacedCondition => "error: misplaced conditional directive\n"
  | .invalidCondition => "error: missing expression in #if\n"
  | _ => "error: invalid preprocessing token\n"

/-- Read a file that is a source or was compiled before; the exit code tells of a failure. -/
def readInput (order : Order) (name : Octets) (default : Language) (input : Input) :
    Program (Except Unit (List SourceUnit)) := do
  match ← Program.readFile input.path with
  | .error error =>
      Program.complain (name ++ ": error: " ++ input.path ++ ": " ++
        Sandbox.Utility.errorText error ++ "\n")
      return .error ()
  | .ok content =>
      match languageOf? default input with
      | none =>
          match Binary.read? Binary.objectMark content with
          | some binary => return .ok binary.units
          | none =>
              if (Binary.read? Machine.libraryMark content).isSome then return .ok []
              Program.complain ("/usr/bin/ld:" ++ input.path ++
                ": file format not recognized; treating as linker script\n")
              return .error ()
      | some language =>
          let (version, isStrict) := order.version language
          let preparation : PreparationOrder :=
            { language, version := toString version ++ "L", isStrict
              places := order.places ++ order.lastPlaces, preamble := order.preamble
              included := order.included }
          match ← prepare preparation input.path content with
          | .error error =>
              Program.complain (input.path ++ ": " ++ preparationMessage error)
              return .error ()
          | .ok tokens =>
              let options : CompileOptions :=
                { language, version, hidesSymbols := order.hidesSymbols }
              return .ok [{ options, tokens }]

/-- Compile what a file holds. -/
def compileInput (order : Order) (name : Octets) (default : Language) (input : Input) :
    Program (Option (List (SourceUnit × CompiledUnit))) := do
  match ← readInput order name default input with
  | .error () => return none
  | .ok units =>
      match units.mapM fun unit => unit.compile.map (unit, ·) with
      | .ok compiled => return some compiled
      | .error error =>
          complainAbout input.path (messageOf error)
          return none

/-! ## Linking -/

/-- Write a file that can be executed. -/
def writeOutput (path image : Octets) : Program UInt8 := do
  match ← Program.writeFile path image with
  | .error error =>
      Program.complain ("/usr/bin/ld: cannot open output file " ++ path ++ ": " ++
        Sandbox.Utility.errorText error ++ "\ncollect2: error: ld returned 1 exit status\n")
      return 1
  | .ok () =>
      let _ ← Program.attempt (.setExecutable path true)
      return 0

/-- Say that linking has failed. -/
def refuseLinking (message : Octets) : Program UInt8 := do
  Program.complain ("/usr/bin/ld: " ++ message ++ "\ncollect2: error: ld returned 1 exit status\n")
  return 1

/-- The libraries that every machine has. -/
def systemLibraries : List Octets := ["c", "m", "dl", "pthread", "rt", "stdc++", "gcc", "gcc_s", "util"]

/-- A library that is asked for and is nowhere. -/
def missingLibrary? (order : Order) : Program (Option Octets) := do
  let others := order.libraries.filter fun name => !systemLibraries.contains name
  let found ← others.mapM fun name => do
    let places ← order.libraryPlaces.mapM fun place =>
      Program.status? (place ++ "/lib" ++ name ++ ".so")
    return (name, places.any (·.isSome))
  return (found.find? fun entry => !entry.2).map Prod.fst

/-- The first symbol that is nowhere. -/
def missingSymbol? (order : Order) (units : List CompiledUnit) : Option Octets :=
  (Linking.missingSymbols (Linking.frameUnit :: units)).find? fun symbol =>
    (Library.groupOf? symbol).isNone ||
      (!order.hasCppRuntime && Library.cppSymbols.contains symbol)

/-- Put compiled sources together and write what comes of them. -/
def linkAll (order : Order) (compiled : List (SourceUnit × CompiledUnit)) : Program UInt8 := do
  let units := compiled.map Prod.snd
  let isMissing := order.goal == .program || order.isComplete
  match ← missingLibrary? order with
  | some name => refuseLinking ("cannot find -l" ++ name ++ ": No such file or directory")
  | none =>
      match Linking.link {} { known := fun _ => some 0 } units with
      | .error (.duplicate symbol) => refuseLinking ("multiple definition of '" ++ symbol ++ "'")
      | .error _ => refuseLinking "final link failed"
      | .ok (_, library) =>
          match if isMissing then missingSymbol? order units else none with
          | some symbol => refuseLinking ("undefined reference to '" ++ symbol ++ "'")
          | none =>
              if order.goal == .program && !library.exports.contains "main" then
                refuseLinking "undefined reference to 'main'"
              else
                let binary : Binary :=
                  { units := compiled.map Prod.fst
                    linkage :=
                      { hasCppRuntime := order.hasCppRuntime, isEager := order.isEager
                        isProgram := order.goal == .program } }
                let mark := if order.goal == .program then Machine.executableMark
                  else Machine.libraryMark
                writeOutput (order.output.getD "a.out") (binary.write mark)

/-- Write a file for each source. -/
def writeObjects (order : Order) : List (Input × List (SourceUnit × CompiledUnit)) → Program UInt8
  | [] => return 0
  | (input, compiled) :: rest => do
      let binary : Binary := { units := compiled.map Prod.fst }
      let path := order.output.getD (stemOf input.path ++ ".o")
      match ← Program.writeFile path (binary.write Binary.objectMark) with
      | .error error =>
          Program.complain ("Assembler messages:\nFatal error: can't create " ++ path ++ ": " ++
            Sandbox.Utility.errorText error ++ "\n")
          return 1
      | .ok () => writeObjects order rest

/-- Carry out an order that makes sense. -/
def carryOut (order : Order) (name : Octets) (default : Language) : Program UInt8 := do
  let results ← order.inputs.mapM fun input => do
    return (input, ← compileInput order name default input)
  let compiled := results.filterMap fun (input, found) => found.map (input, ·)
  if compiled.length < results.length then return 1
  match order.goal with
  | .nothing => return 0
  | .object => writeObjects order compiled
  | .library | .program => linkAll order (compiled.flatMap Prod.snd)

/-- The compiler with a name, for sources of a language unless their names tell another one. -/
def utility (name : Octets) (default : Language) : Sandbox.Utility :=
  fun arguments _ => do
    let read := ({} : Order).read arguments
    let hasCppRuntime := default == Language.cpp || read.libraries.contains "stdc++"
    let order : Order := { read with hasCppRuntime }
    if arguments.contains "--version" then
      Program.print (name ++ " (Ubuntu 13.3.0-6ubuntu2~24.04.1) 13.3.0\n")
      return 0
    match order.incomplete, order.unknown with
    | some option, _ =>
        Program.complain (name ++ ": error: missing argument to '" ++ option ++ "'\n")
        return 1
    | none, option :: _ =>
        Program.complain (name ++ ": error: unrecognized command-line option '" ++ option ++ "'\n")
        return 1
    | none, [] =>
        if order.hasUnknownVersion then
          Program.complain (name ++ ": error: unrecognized command-line option '-std=" ++
            order.standard.getD "" ++ "'\n")
          return 1
        let paths ← order.inputs.mapM fun input => do
          return (input.path, ← Program.status? input.path)
        let missing := paths.filter fun path => path.2.isNone
        if !missing.isEmpty then
          for (path, _) in missing do
            Program.complain (name ++ ": error: " ++ path ++ ": No such file or directory\n")
        if missing.length == order.inputs.length then giveUp name "no input files"
        else if !missing.isEmpty then return 1
        else if order.output.isSome && 1 < order.inputs.length && order.goal == .object then
          giveUp name "cannot specify '-o' with '-c', '-S' or '-E' with multiple files"
        else carryOut order name default

/-- Run a compiled program, whose bytes precede its arguments. -/
def runExecutable : Sandbox.Utility := fun arguments environment next =>
  match arguments with
  | [] => next 126
  | image :: rest =>
      let units? := (Binary.read? Machine.executableMark image).bind fun binary =>
        binary.compile.toOption.map fun units => (binary.linkage, units)
      match units? with
      | some (linkage, units) => Executable.task linkage units rest environment
      | none => next 126

/-- The compilers that a machine may have, and the program that runs what they write. -/
def all : List (Octets × Sandbox.Utility) :=
  [("cc", utility "cc" .c), ("gcc", utility "gcc" .c), ("c++", utility "c++" .cpp),
    ("g++", utility "g++" .cpp), (Machine.executableProgram, runExecutable)]

end Compiler

end QueryFoundry.Native
