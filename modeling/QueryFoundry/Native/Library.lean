import QueryFoundry.Native.Library.Memory
import QueryFoundry.Native.Library.Numbers
import QueryFoundry.Native.Library.Objects
import QueryFoundry.Native.Library.Streams
import QueryFoundry.Native.Library.Surroundings
import QueryFoundry.Native.Source

/-!
# The library of the system

Functions that every program may call. They are kept as sources in groups; a group is compiled when
something that it defines is needed.
-/

namespace QueryFoundry.Native.Library

open Text (Octets)

/-- Functions of the system that belong together. -/
structure Group where
  name : Octets
  source : Octets
  symbols : List Octets
  language : Language := .c

/-- The functions of the system in C. -/
def plainGroups : List Group :=
  [("memory", memory, memorySymbols), ("texts", texts, textSymbols),
    ("streams", streams, streamSymbols), ("surroundings", surroundings, surroundingSymbols),
    ("numbers", numbers, numberSymbols), ("reals", reals, realSymbols),
    ("scanning", scanning, scanningSymbols), ("times", times, timeSymbols)].map
    fun (name, source, symbols) => { name, source, symbols }

/-- The functions of the system in C++. -/
def cppGroups : List Group :=
  [("objects", objects, objectSymbols), ("failing", failing, failingSymbols)].map
    fun (name, source, symbols) => { name, source, symbols, language := .cpp }

/-- The functions of the system. -/
def groups : List Group := plainGroups ++ cppGroups

/-- The symbols of the standard functions of C++ among those of the system. -/
def cppSymbols : List Octets := cppGroups.flatMap (·.symbols)

/-- The group that defines a symbol. -/
def groupOf? (symbol : Octets) : Option Group :=
  groups.find? fun group => group.symbols.contains symbol

/-- Whether a symbol of the system comes before one of a library with the same name. Those of the
mathematical library and of C++ do not. -/
def isPreferred (symbol : Octets) : Bool :=
  !cppSymbols.contains symbol && (groupOf? symbol).any fun group => group.name != "reals"

/-- The compiled source of a group. -/
def Group.compile (group : Group) : CompiledUnit :=
  let (version, written) := match group.language with
    | .c => (201710, "201710L")
    | .cpp => (201103, "201103L")
  let order : PreparationOrder := { language := group.language, version := written }
  let unit? : Option CompiledUnit := do
    let tokens ← (prepareAlone order group.source).toOption
    (SourceUnit.compile { options := { language := group.language, version }, tokens }).toOption
  unit?.getD {}

/-- The groups that some symbols belong to, with the groups that these need themselves; the names of
groups that are there already are given. -/
def neededGroups : Nat → List Octets → List Octets → List CompiledUnit →
    List Octets × List CompiledUnit
  | 0, _, present, found | _, [], present, found => (present, found)
  | fuel + 1, symbol :: rest, present, found =>
      match groupOf? symbol with
      | none => neededGroups fuel rest present found
      | some group =>
          if present.contains group.name then neededGroups fuel rest present found
          else
            let unit := group.compile
            neededGroups fuel (Linking.missingSymbols [unit] ++ rest) (group.name :: present)
              (unit :: found)

/-- A bound on the number of symbols that are looked for. -/
def searchLimit : Nat := 100000

end QueryFoundry.Native.Library
