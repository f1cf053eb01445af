import QueryFoundry.Native.Compilation.Source
import QueryFoundry.Native.Preparation
import QueryFoundry.Native.Reading.Declarations

/-!
# Sources

A prepared source with the way in which it is compiled, as it is kept in the files that compilers
write.
-/

namespace QueryFoundry.Native

open Text (Octets)

namespace Language

/-- The name of a language inside a file. -/
def mark : Language → Octets
  | c => "c"
  | cpp => "c++"

/-- The language with a name. -/
def ofMark? (name : Octets) : Option Language :=
  if name == "c" then some c
  else if ["c++", "c++-header"].contains name then some cpp
  else none

end Language

/-- A prepared source. -/
structure SourceUnit where
  options : CompileOptions
  tokens : List Token
deriving Inhabited

/-- Why a source makes no sense. -/
inductive SourceError where
  | unreadable (error : ReadingError)
  | meaningless (error : CompileError)
deriving Repr

namespace SourceUnit

/-- Compile a source. -/
def compile (unit : SourceUnit) : Except SourceError CompiledUnit := do
  let declarations ← (readSource unit.options.language unit.tokens).mapError .unreadable
  (compileDeclarations unit.options declarations).mapError .meaningless

/-- A source as a text: a line about it, and its tokens. -/
def write (unit : SourceUnit) : Octets :=
  let tokens := Token.writeAll unit.tokens
  let words := [unit.options.language.mark, toString unit.options.version,
    if unit.options.hidesSymbols then "hidden" else "seen", toString tokens.length]
  " ".intercalate words ++ "\n" ++ tokens

/-- Read a source from the front of a text; what follows it is returned, too. -/
def read? (text : List Char) : Option (SourceUnit × List Char) := do
  let line := text.takeWhile (· != '\n')
  let [mark, version, visibility, length] := (String.ofList line).splitOn " " | none
  let language ← Language.ofMark? mark
  let content := text.drop (line.length + 1)
  let count ← length.toNat?
  let tokens := Token.scan language (String.ofList (content.take count))
  return (⟨⟨language, ← version.toNat?, visibility == "hidden"⟩, tokens⟩, content.drop count)

/-- Read sources from a text that holds nothing else. -/
def readAll? : Nat → List Char → Option (List SourceUnit)
  | 0, _ => none
  | _, [] => some []
  | fuel + 1, text => do
      let (unit, rest) ← read? text
      return unit :: (← readAll? fuel rest)

end SourceUnit

end QueryFoundry.Native
