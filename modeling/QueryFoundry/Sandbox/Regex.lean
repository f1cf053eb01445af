import QueryFoundry.Text.Octets

/-!
# Regular expressions

Regular expressions and what they match. Of all matches the one that starts first is meant, and of
those the longest one; in it, the parts on the left are as long as they can be.
-/

namespace QueryFoundry.Sandbox

open Text (Octets)

/-- A set of characters: those in some ranges, or all others. -/
structure CharacterSet where
  ranges : List (Char × Char)
  negated : Bool := false
deriving Repr

/-- A place that an expression asks for and that takes up no characters. -/
inductive Anchor where
  | lineStart
  | lineEnd
  | textStart
  | textEnd
  | wordStart
  | wordEnd
  /-- A start or an end of a word. -/
  | wordBorder
  | noWordBorder
deriving DecidableEq, Repr

/-- A regular expression. -/
inductive Regex where
  | empty
  | oneOf (characters : CharacterSet)
  | anchor (kind : Anchor)
  | sequence (first second : Regex)
  | either (first second : Regex)
  | repeated (body : Regex) (least : Nat) (most : Option Nat)
  | group (index : Nat) (body : Regex)
  /-- The text that a group has matched. -/
  | sameAs (index : Nat)
deriving Repr

namespace CharacterSet

/-- Whether a character is in one of the ranges. -/
def covers (set : CharacterSet) (character : Char) : Bool :=
  set.ranges.any fun (low, high) => low ≤ character && character ≤ high

/-- Whether a set has a character. Where case does not count, either form of a letter will do. -/
def contains (set : CharacterSet) (ignoreCase : Bool) (character : Char) : Bool :=
  (set.covers character ||
    (ignoreCase && (set.covers character.toLower || set.covers character.toUpper))) != set.negated

end CharacterSet

namespace Regex

/-- A text in which an expression is looked for. -/
structure Subject where
  characters : Array Char
  ignoreCase : Bool := false
  /-- The character between lines, if each line has a start and an end. -/
  lineEnd : Option Char := none
  /-- Whether groups must be told apart, because the expression asks for their texts. -/
  tellsGroups : Bool := false

/-- How far a match has come: a place in the text, and where the groups start and end. -/
structure Progress where
  place : Nat
  groups : List (Nat × Nat × Nat) := []
deriving BEq

/-- Whether an expression asks for the text of a group. -/
def asksForGroup : Regex → Bool
  | .sameAs _ => true
  | .sequence first second | .either first second => first.asksForGroup || second.asksForGroup
  | .repeated body _ _ | .group _ body => body.asksForGroup
  | _ => false

/-- A character that words are made of. -/
def isWordCharacter (character : Char) : Bool :=
  character.isAlphanum || character == '_'

/-- Whether an anchor holds at a place. -/
def holdsAt (subject : Subject) (place : Nat) (anchor : Anchor) : Bool :=
  let before := if place = 0 then none else subject.characters[place - 1]?
  let after := subject.characters[place]?
  let isBehindWord := before.any isWordCharacter
  let isBeforeWord := after.any isWordCharacter
  match anchor with
  | .lineStart => before.isNone || (subject.lineEnd.isSome && before == subject.lineEnd)
  | .lineEnd => after.isNone || (subject.lineEnd.isSome && after == subject.lineEnd)
  | .textStart => before.isNone
  | .textEnd => after.isNone
  | .wordStart => !isBehindWord && isBeforeWord
  | .wordEnd => isBehindWord && !isBeforeWord
  | .wordBorder => isBehindWord != isBeforeWord
  | .noWordBorder => isBehindWord == isBeforeWord

/-- Whether a set has a character of a text. A set of all but some characters has no line feed where
lines have a start and an end. -/
def hasCharacter (subject : Subject) (set : CharacterSet) (character : Char) : Bool :=
  set.contains subject.ignoreCase character &&
    !(set.negated && subject.lineEnd.isSome && character == '\n')

/-- Of ways that have come equally far, keep the first. -/
def distinct (tellsGroups : Bool) : List Progress → List Progress
  | [] => []
  | first :: rest =>
      let others := distinct tellsGroups rest
      first :: (if tellsGroups then others.filter (· != first)
        else others.dropWhile (·.place == first.place))

/-- Put the ways first that have come farthest, and drop those that add nothing. -/
def ranked (subject : Subject) (ways : List Progress) : List Progress :=
  distinct subject.tellsGroups (ways.mergeSort fun left right => right.place ≤ left.place)

/-- Take a step from each way. -/
def fromEach (subject : Subject) (step : Progress → List Progress) (ways : List Progress) :
    List Progress :=
  match ways with
  | [only] => step only
  | _ => ranked subject (ways.flatMap step)

/-- Take a step a number of times. -/
def takeTimes (subject : Subject) (step : Progress → List Progress) :
    Nat → List Progress → List Progress
  | 0, ways => ways
  | count + 1, ways =>
      if ways.isEmpty then [] else takeTimes subject step count (fromEach subject step ways)

/-- Take a step as often as it leads on, at most a number of times, and collect all ways. -/
def takeWhileNew (subject : Subject) (step : Progress → List Progress) :
    Nat → List Progress → List Progress → List Progress
  | 0, _, known => known
  | count + 1, ways, known =>
      let isKnown (way : Progress) : Bool :=
        if subject.tellsGroups then known.contains way else known.any (·.place == way.place)
      match (fromEach subject step ways).filter (!isKnown ·) with
      | [] => known
      | new => takeWhileNew subject step count new (known ++ new)

/-- The number of characters of a set at a place, up to a bound. -/
def runLength (subject : Subject) (set : CharacterSet) : Nat → Nat → Nat
  | 0, _ => 0
  | bound + 1, place =>
      match subject.characters[place]? with
      | some character =>
          if hasCharacter subject set character then
            runLength subject set bound (place + 1) + 1
          else 0
      | none => 0

/-- The ways of matching an expression from a place on, those that come farthest first. -/
def ways (subject : Subject) : Regex → Progress → List Progress
  | .empty, way => [way]
  | .oneOf set, way =>
      match subject.characters[way.place]? with
      | some character =>
          if hasCharacter subject set character then
            [{ way with place := way.place + 1 }]
          else []
      | none => []
  | .anchor kind, way => if holdsAt subject way.place kind then [way] else []
  | .sequence first second, way => fromEach subject (ways subject second) (ways subject first way)
  | .either first second, way =>
      ranked subject (ways subject first way ++ ways subject second way)
  | .group index body, way =>
      (ways subject body way).map fun reached =>
        { reached with
          groups := (index, way.place, reached.place) :: reached.groups.filter (·.1 != index) }
  | .sameAs index, way =>
      match way.groups.lookup index with
      | none => []
      | some (start, stop) =>
          let length := stop - start
          let isSame := (List.range length).all fun offset =>
            match subject.characters[start + offset]?, subject.characters[way.place + offset]? with
            | some left, some right =>
                left == right || (subject.ignoreCase && left.toLower == right.toLower)
            | _, _ => false
          if isSame then [{ way with place := way.place + length }] else []
  | .repeated (.oneOf set) least most, way =>
      let left := subject.characters.size - way.place
      let length := runLength subject set (most.getD left) way.place
      if length < least then []
      else (List.range (length + 1 - least)).reverse.map fun count =>
        { way with place := way.place + least + count }
  | .repeated body least most, way =>
      let start := takeTimes subject (ways subject body) least [way]
      let bound := match most with
        | some count => count - least
        | none => subject.characters.size + 1 - way.place
      ranked subject (takeWhileNew subject (ways subject body) bound start start)

/-- A match: its start, its end, and where its groups start and end. -/
structure Found where
  start : Nat
  stop : Nat
  groups : List (Nat × Nat × Nat)

/-- The first match that starts at one of a number of places. -/
def search (subject : Subject) (regex : Regex) : Nat → Nat → Option Found
  | 0, _ => none
  | count + 1, place =>
      match ways subject regex { place } with
      | best :: _ => some ⟨place, best.place, best.groups⟩
      | [] => search subject regex count (place + 1)

/-- The first match in a text, from a place on. -/
def find? (regex : Regex) (ignoreCase : Bool) (lineEnd : Option Char) (characters : Array Char)
    (start : Nat) : Option Found :=
  search { characters, ignoreCase, lineEnd, tellsGroups := regex.asksForGroup } regex
    (characters.size + 1 - start) start

end Regex

end QueryFoundry.Sandbox
