import QueryFoundry.Sandbox.Pattern
import QueryFoundry.Sandbox.Shell.State

/-!
# Fields

The last steps of the expansion of words: what parameters and commands yielded is split into fields,
fields are matched against file names, and quotes are dropped.
-/

namespace QueryFoundry.Sandbox.Shell

open Text (Octets)

/-- Where an expanded text is split. A zero byte stands between two arguments. -/
inductive Breaking where
  | never
  | atSeparators
  /-- Only between arguments. -/
  | atBorders
deriving DecidableEq, Repr

/-- A part of an expanded text. -/
inductive Glyph where
  | character (value : Char) (quoted : Bool)
  /-- A quotation mark, with which a field is not empty. -/
  | mark
deriving DecidableEq, Repr

/-- A piece of an expanded text that is split in one way. -/
structure Stretch where
  breaking : Breaking
  glyphs : List Glyph
deriving Repr

/-- What a word expands to. -/
abbrev Expansion := List Stretch

/-- The glyphs of a text. -/
def glyphsOf (quoted : Bool) (text : Octets) : List Glyph :=
  text.toList.map fun value => .character value quoted

/-- The text of glyphs. -/
def textOf (glyphs : List Glyph) : Octets :=
  String.ofList (glyphs.filterMap fun
    | .character value _ => some value
    | .mark => none)

/-- The text of an expansion that is not split. -/
def Expansion.text (expansion : Expansion) : Octets :=
  textOf (expansion.flatMap Stretch.glyphs)

/-- A field: its characters as they are written in a pattern. -/
abbrev Field := List Pattern.Written

/-- The field that some glyphs are. -/
def fieldOf (glyphs : List Glyph) : Field :=
  glyphs.filterMap fun
    | .character value quoted => some (value, !quoted)
    | .mark => none

/-- The pattern that an expansion is. -/
def Expansion.pattern (expansion : Expansion) : List Pattern.Item :=
  Pattern.read (fieldOf (expansion.flatMap Stretch.glyphs))

/-- Fields while they are collected. -/
structure Splitting where
  /-- The fields that are complete, the last one first. -/
  fields : List (List Glyph) := []
  /-- The field that is not complete, its last glyph first. -/
  current : List Glyph := []
  /-- Whether a blank has ended the last field, and nothing else has been read since. -/
  afterBlank : Bool := false
  /-- The number of fields that may still be completed, if there is a bound. -/
  remaining : Option Nat := none
  /-- What the last field is without the separators at its end. -/
  kept : Option (List Glyph) := none

namespace Splitting

/-- Take a glyph that belongs to the last of the fields that may be read. -/
def takeLast (splitting : Splitting) (glyph : Glyph) (isSeparator isBlank : Bool) : Splitting :=
  let extended := { splitting with current := glyph :: splitting.current }
  if isBlank then { extended with kept := splitting.kept <|> some splitting.current }
  else
    { extended with
      afterBlank := false
      kept := if isSeparator && splitting.afterBlank then splitting.kept else none }

/-- Take a separator. -/
def takeSeparator (splitting : Splitting) (glyph : Glyph) (isBlank countsBlanks : Bool) :
    Splitting :=
  let marked := if countsBlanks then { splitting with afterBlank := isBlank } else splitting
  if splitting.current.isEmpty && marked.afterBlank then { marked with afterBlank := false }
  else
    match splitting.remaining with
    | some (count + 1) =>
        if count == 0 then
          { marked with
            remaining := some 0, kept := some splitting.current
            current := glyph :: splitting.current }
        else
          { marked with
            remaining := some count
            fields := splitting.current :: splitting.fields, current := [] }
    | _ => { marked with fields := splitting.current :: splitting.fields, current := [] }

/-- Take a glyph of a text that is split. -/
def takeGlyph (separators : List Char) (breaking : Breaking) (countsBlanks : Bool)
    (splitting : Splitting) (glyph : Glyph) : Splitting :=
  match glyph with
  | .mark => { splitting with current := glyph :: splitting.current }
  | .character value _ =>
      let isSeparator := value == '\x00' ||
        (breaking == .atSeparators && separators.contains value)
      let isBlank := isSeparator && ['\x00', ' ', '\t', '\n'].contains value
      if splitting.remaining == some 0 then splitting.takeLast glyph isSeparator isBlank
      else if splitting.afterBlank then
        let current := if isSeparator then [] else [glyph]
        { splitting with current, afterBlank := isBlank }
      else if isSeparator then splitting.takeSeparator glyph isBlank countsBlanks
      else { splitting with current := glyph :: splitting.current }

/-- Take a stretch; `behindArguments` tells whether the last stretch that was split held arguments.
-/
def takeStretch (separators : List Char) (splitting : Splitting) (behindArguments : Bool)
    (stretch : Stretch) : Splitting :=
  match stretch.breaking with
  | .never => { splitting with current := stretch.glyphs.reverse ++ splitting.current }
  | breaking =>
      let countsBlanks := !(behindArguments || breaking == .atBorders)
      stretch.glyphs.foldl (takeGlyph separators breaking countsBlanks)
        { splitting with afterBlank := false }

/-- Take stretches and complete the last field. -/
def takeAll (separators : List Char) : Expansion → Splitting → Bool → List (List Glyph)
  | [], splitting, behindArguments =>
      let last := splitting.kept.getD splitting.current
      let fields := if last.isEmpty && !behindArguments then splitting.fields
        else last :: splitting.fields
      (fields.map List.reverse).reverse
  | stretch :: rest, splitting, behindArguments =>
      takeAll separators rest (splitting.takeStretch separators behindArguments stretch)
        (match stretch.breaking with
        | .never => behindArguments
        | breaking => breaking == .atBorders)

end Splitting

/-- Split an expansion into fields, with a bound on their number or without one. -/
def splitFields (separators : List Char) (bound : Option Nat) (expansion : Expansion) :
    List Field :=
  (Splitting.takeAll separators expansion { remaining := bound } false).map fieldOf

/-- The characters of a field. -/
def fieldText (field : Field) : Octets :=
  String.ofList (field.map Prod.fst)

/-- The parts of a field between its slashes. -/
def fieldComponents : Field → List Field
  | [] => [[]]
  | (character, active) :: rest =>
      match fieldComponents rest with
      | [] => [[(character, active)]]
      | first :: others =>
          if character == '/' then [] :: first :: others
          else ((character, active) :: first) :: others

/-- The paths that start with one of some paths and go on with components that match. -/
def matchComponents : List Octets → List Field → Program (List Octets)
  | starts, [] => pure starts
  | starts, component :: rest => do
      let isLast := rest.isEmpty
      let continued ← starts.mapM fun start => do
        if Pattern.mayMatchMany component then
          let directory := if start.isEmpty then "." else start
          match ← Program.ask (.list directory) with
          | .names names =>
              let pattern := Pattern.read component
              let showsHidden := component.head?.any fun (character, _) => character == '.'
              let matching := ("." :: ".." :: names).filter fun name =>
                (showsHidden || name.toList.head? != some '.') &&
                  Pattern.matchesText pattern name.toList
              return matching.map fun name => start ++ name ++ if isLast then "" else "/"
          | _ => return []
        else return [start ++ fieldText component ++ if isLast then "" else "/"]
      matchComponents continued.flatten rest

/-- The file names that a field stands for, or its own text where it stands for none. -/
def matchFiles (field : Field) : Program (List Octets) := do
  let components := (fieldComponents (Pattern.escape field))
  if !(components.any Pattern.mayMatchMany) then return [fieldText field]
  else
    let found ← (← matchComponents [""] components).filterM fun path => do
      return (← Program.status? path).isSome
    return if found.isEmpty then [fieldText field]
      else found.mergeSort fun left right => left ≤ right

end QueryFoundry.Sandbox.Shell
