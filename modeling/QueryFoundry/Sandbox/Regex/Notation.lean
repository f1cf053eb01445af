import QueryFoundry.Sandbox.Regex

/-!
# The notations of regular expressions

How regular expressions are written, with operators that have backslashes or in the extended
notation, in which they have none.
-/

namespace QueryFoundry.Sandbox.Regex

open Text (Octets)

/-- Why a text is no regular expression. -/
inductive Problem where
  | invalidReference
  | invalidClassName
  | invalidCollation
  | trailingBackslash
  | unmatchedBracket
  | unmatchedParenthesis
  | unmatchedBrace
  | invalidRepetition
  | invalidRangeEnd
  | tooBig
  | invalidPreceding
  | unmatchedClosing
  /-- A named class that lacks its second pair of brackets. -/
  | bareClass
deriving DecidableEq, Repr

/-- The text of a problem. -/
def Problem.message : Problem → Octets
  | invalidReference => "Invalid back reference"
  | invalidClassName => "Invalid character class name"
  | invalidCollation => "Invalid collation character"
  | trailingBackslash => "Trailing backslash"
  | unmatchedBracket => "Unmatched [, [^, [:, [., or [="
  | unmatchedParenthesis => "Unmatched ( or \\("
  | unmatchedBrace => "Unmatched \\\x7b"
  | invalidRepetition => "Invalid content of \\\x7b\\\x7d"
  | invalidRangeEnd => "Invalid range end"
  | tooBig => "Regular expression too big"
  | invalidPreceding => "Invalid preceding regular expression"
  | unmatchedClosing => "Unmatched ) or \\)"
  | bareClass => "character class syntax is [[:space:]], not [:space:]"

/-- What an expression is written with. -/
inductive Lexeme where
  | endOfText
  | character (value : Char)
  | any
  | set (characters : CharacterSet)
  | anchor (kind : Anchor)
  | reference (index : Nat)
  | openGroup
  | closeGroup
  | bar
  | star
  | plus
  | mayBe
  | openCount
  | closeCount
  | openBracket
  | loneBackslash
deriving Repr

/-- The state of the reader of an expression. -/
structure Reading where
  extended : Bool
  ignoreCase : Bool
  rest : List Char
  /-- Whether nothing has been read. -/
  isAtStart : Bool := true
  /-- The lexeme that comes next. -/
  next : Lexeme := .endOfText
  groups : Nat := 0
  /-- The groups that are complete. -/
  complete : List Nat := []

/-- A reader of a part of an expression. -/
abbrev Reader (α : Type) := StateT Reading (Except Problem) α

/-- The characters that are no more than one, or all others. -/
def single (character : Char) : CharacterSet := ⟨[(character, character)], false⟩

/-- All characters. -/
def everything : CharacterSet := ⟨[], true⟩

/-- The characters of a named class. -/
def classRanges? : Octets → Option (List (Char × Char))
  | "alpha" => some [('a', 'z'), ('A', 'Z')]
  | "digit" => some [('0', '9')]
  | "alnum" => some [('a', 'z'), ('A', 'Z'), ('0', '9')]
  | "upper" => some [('A', 'Z')]
  | "lower" => some [('a', 'z')]
  | "space" => some [('\t', '\r'), (' ', ' ')]
  | "blank" => some [('\t', '\t'), (' ', ' ')]
  | "punct" => some [('!', '/'), (':', '@'), ('[', '`'), ('\x7b', '~')]
  | "print" => some [(' ', '~')]
  | "graph" => some [('!', '~')]
  | "cntrl" => some [('\x00', '\x1f'), ('\x7f', '\x7f')]
  | "xdigit" => some [('0', '9'), ('a', 'f'), ('A', 'F')]
  | _ => none

/-- The characters of words. -/
def wordRanges : List (Char × Char) := [('a', 'z'), ('A', 'Z'), ('0', '9'), ('_', '_')]

/-- The characters that are blank. -/
def spaceRanges : List (Char × Char) := [('\t', '\r'), (' ', ' ')]

/-- What a character behind a backslash stands for. -/
def escapedLexeme (extended : Bool) (character : Char) : Lexeme :=
  let plain := Lexeme.character character
  let unlessExtended (lexeme : Lexeme) : Lexeme := if extended then plain else lexeme
  match character with
  | '|' => unlessExtended .bar
  | '(' => unlessExtended .openGroup
  | ')' => unlessExtended .closeGroup
  | '\x7b' => unlessExtended .openCount
  | '\x7d' => unlessExtended .closeCount
  | '+' => unlessExtended .plus
  | '?' => unlessExtended .mayBe
  | '<' => .anchor .wordStart
  | '>' => .anchor .wordEnd
  | 'b' => .anchor .wordBorder
  | 'B' => .anchor .noWordBorder
  | '`' => .anchor .textStart
  | '\'' => .anchor .textEnd
  | 'w' => .set ⟨wordRanges, false⟩
  | 'W' => .set ⟨wordRanges, true⟩
  | 's' => .set ⟨spaceRanges, false⟩
  | 'S' => .set ⟨spaceRanges, true⟩
  | _ =>
      if '1' ≤ character && character ≤ '9' then .reference (character.toNat - '0'.toNat)
      else plain

/-- Whether a group or an alternative ends in front of a text, for a dollar sign to stand for the
end of a line there. -/
def endsBranch (extended : Bool) (rest : List Char) : Bool :=
  match rest with
  | [] => true
  | '\\' :: character :: _ => !extended && (character == '|' || character == ')')
  | character :: _ => extended && (character == '|' || character == ')')

/-- The lexeme in front of a text, and what follows it. `allowsAnchor` holds where a group or an
alternative starts. -/
def lexemeOf (extended isAtStart allowsAnchor : Bool) (text : List Char) : Lexeme × List Char :=
  let inExtended (character : Char) (lexeme : Lexeme) : Lexeme :=
    if extended then lexeme else .character character
  match text with
  | [] => (.endOfText, [])
  | ['\\'] => (.loneBackslash, [])
  | '\\' :: character :: rest => (escapedLexeme extended character, rest)
  | character :: rest =>
      let lexeme := match character with
        | '*' => .star
        | '.' => .any
        | '[' => .openBracket
        | '+' => inExtended character .plus
        | '?' => inExtended character .mayBe
        | '|' => inExtended character .bar
        | '(' => inExtended character .openGroup
        | ')' => inExtended character .closeGroup
        | '\x7b' => inExtended character .openCount
        | '\x7d' => inExtended character .closeCount
        | '^' =>
            if extended || isAtStart || allowsAnchor then .anchor .lineStart
            else .character character
        | '$' =>
            if extended || endsBranch extended rest then .anchor .lineEnd
            else .character character
        | _ => .character character
      (lexeme, rest)

/-- Read the next lexeme. -/
def advance (allowsAnchor : Bool) : Reader Unit :=
  modify fun reading =>
    let (next, rest) := lexemeOf reading.extended reading.isAtStart allowsAnchor reading.rest
    { reading with next, rest, isAtStart := false }

/-- The text up to a closing mark such as `:]`, and what follows that. -/
def untilMark (mark : Char) : List Char → Option (List Char × List Char)
  | [] => none
  | character :: rest =>
      if character == mark && rest.head? == some ']' then some ([], rest.drop 1)
      else (untilMark mark rest).map fun (text, behind) => (character :: text, behind)

/-- What stands between brackets. -/
inductive BracketItem where
  | character (value : Char)
  | ranges (values : List (Char × Char))

/-- The item in front of a text between brackets. -/
def bracketItem (ignoreCase : Bool) (text : List Char) :
    Except Problem (BracketItem × List Char) := do
  match text with
  | [] => throw .unmatchedBracket
  | '[' :: mark :: rest =>
      if mark == ':' || mark == '.' || mark == '=' then
        match untilMark mark rest with
        | none => throw .unmatchedBracket
        | some (name, behind) =>
            if mark == ':' then
              let word := String.ofList name
              let meant := if ignoreCase && (word == "upper" || word == "lower") then "alpha"
                else word
              match classRanges? meant with
              | some ranges => return (.ranges ranges, behind)
              | none => throw .invalidClassName
            else
              match name with
              | [character] =>
                  return (if mark == '.' then .character character
                    else .ranges [(character, character)], behind)
              | _ => throw .invalidCollation
      else return (.character '[', mark :: rest)
  | character :: rest => return (.character character, rest)

/-- The ranges of the items between brackets, and what follows the closing one. -/
def bracketItems (ignoreCase : Bool) : Nat → Bool → List (Char × Char) → List Char →
    Except Problem (List (Char × Char) × List Char)
  | 0, _, _, _ => throw .unmatchedBracket
  | fuel + 1, isFirst, read, text => do
      match text, isFirst with
      | ']' :: behind, false => return (read, behind)
      | '-' :: next :: rest, false =>
          if next == ']' then return (read ++ [('-', '-')], rest)
          else throw .invalidRangeEnd
      | _, _ =>
          let (item, rest) ← bracketItem ignoreCase text
          match rest with
          | [] => throw .unmatchedBracket
          | '-' :: high :: _ =>
              if high == ']' then
                bracketItems ignoreCase fuel false (read ++ rangesOf item) rest
              else
                let (last, behind) ← bracketItem ignoreCase (rest.drop 1)
                match item, last with
                | .character low, .character high =>
                    if high < low then throw .invalidRangeEnd
                    else bracketItems ignoreCase fuel false (read ++ [(low, high)]) behind
                | _, _ => throw .invalidRangeEnd
          | _ => bracketItems ignoreCase fuel false (read ++ rangesOf item) rest
where
  /-- The ranges of an item that stands alone. -/
  rangesOf : BracketItem → List (Char × Char)
    | .character value => [(value, value)]
    | .ranges values => values

/-- The set between brackets, and what follows the closing one. -/
def bracketSet (ignoreCase : Bool) (text : List Char) : Except Problem (CharacterSet × List Char) := do
  let (negated, body) := match text with
    | '^' :: body => (true, body)
    | _ => (false, text)
  let (ranges, rest) ← bracketItems ignoreCase (body.length + 1) true [] body
  let inside := body.take (body.length - rest.length - 1)
  if 2 < inside.length && inside.head? == some ':' && inside.getLast? == some ':' &&
      !(inside.contains '[') then throw .bareClass
  return (⟨ranges, negated⟩, rest)

/-- The greatest number of repetitions. -/
def repetitionLimit : Nat := 32767

/-- A number of repetitions as it is read. -/
inductive Count where
  | missing
  | number (value : Nat)
  | invalid
deriving DecidableEq

/-- Read a number of repetitions up to a comma or the closing brace. -/
def readCount : Nat → Count → Reader Count
  | 0, count => pure count
  | fuel + 1, count => do
      advance false
      match (← get).next with
      | .endOfText => return .invalid
      | .closeCount | .character ',' => return count
      | .character digit =>
          readCount fuel (match digit.isDigit, count with
            | false, _ | _, .invalid => .invalid
            | true, .missing => .number (digit.toNat - '0'.toNat)
            | true, .number value =>
                .number (min (repetitionLimit + 1) (value * 10 + (digit.toNat - '0'.toNat))))
      | _ => readCount fuel .invalid

/-- Read how often an item may come behind an opening brace. -/
def readCounts : Reader (Nat × Option Nat) := do
  let fuel := (← get).rest.length + 2
  let isComma (lexeme : Lexeme) : Bool := lexeme matches .character ','
  let first ← readCount fuel .missing
  if first == .missing && !(isComma (← get).next) then throw Problem.invalidRepetition
  let least := if first == .missing then Count.number 0 else first
  let most ←
    if least == .invalid then pure Count.invalid
    else if (← get).next matches .closeCount then pure least
    else if isComma (← get).next then readCount fuel .missing
    else pure .invalid
  match least, most with
  | .number low, .number high =>
      if high < low || !((← get).next matches .closeCount) then throw .invalidRepetition
      else if repetitionLimit < high then throw .tooBig
      else return (low, some high)
  | .number low, .missing =>
      if !((← get).next matches .closeCount) then throw .invalidRepetition
      else if repetitionLimit < low then throw .tooBig
      else return (low, none)
  | _, _ =>
      if (← get).next matches .endOfText then throw .unmatchedBrace
      else throw .invalidRepetition

/-- The repetition that an operator asks for, if it is one. -/
def repetition? : Lexeme → Option (Nat × Option Nat)
  | .star => some (0, none)
  | .plus => some (1, none)
  | .mayBe => some (0, some 1)
  | _ => none

/-- An item that may come a number of times. -/
def repeatItem (body : Regex) (least : Nat) (most : Option Nat) : Regex :=
  match body, most with
  | .empty, _ | _, some 0 => .empty
  | _, _ => .repeated body least most

/-- Read the operators that follow an item. -/
def repetitions : Nat → Regex → Reader Regex
  | 0, body => pure body
  | fuel + 1, body => do
      let reading ← get
      let isCount := reading.next matches .openCount
      match repetition? reading.next, isCount with
      | none, false => return body
      | simple, _ =>
          let (least, most) ← match simple with
            | some counts => pure counts
            | none => readCounts
          advance false
          let after := (← get).next
          if !reading.extended && (after matches .star | .openCount) then
            throw .invalidPreceding
          repetitions fuel (repeatItem body least most)

mutual

/-- Alternatives. One of them cannot refer to the groups of another. -/
def alternatives : Nat → Nat → Reader Regex
  | 0, _ => pure .empty
  | fuel + 1, depth => do
      let known := (← get).complete
      let first ← branch fuel depth
      if (← get).next matches .bar then
        let complete := (← get).complete
        modify fun reading => { reading with complete := known }
        advance true
        let others ← alternatives fuel depth
        modify fun reading => { reading with complete := reading.complete ++ complete }
        return .either first others
      else return first

/-- Items one after the other. -/
def branch : Nat → Nat → Reader Regex
  | 0, _ => pure .empty
  | fuel + 1, depth => do
      match (← get).next with
      | .endOfText | .bar => return .empty
      | next =>
          if 0 < depth && next matches .closeGroup then return .empty
          else
            let first ← item fuel depth
            match ← branch fuel depth with
            | .empty => return first
            | rest => return if first matches .empty then rest else .sequence first rest

/-- An item with the operators that follow it. Nothing is repeated that takes up no characters. -/
def item : Nat → Nat → Reader Regex
  | 0, _ => pure .empty
  | fuel + 1, depth => do
      let reading ← get
      let isRepeated (body : Regex) : Reader Regex := do
        advance false
        repetitions fuel body
      let asCharacter (character : Char) : Reader Regex := isRepeated (.oneOf (single character))
      match reading.next with
      | .character character => asCharacter character
      | .any => isRepeated (.oneOf everything)
      | .set characters => isRepeated (.oneOf characters)
      | .openBracket =>
          let (characters, rest) ← bracketSet reading.ignoreCase reading.rest
          set { reading with rest }
          isRepeated (.oneOf characters)
      | .openGroup =>
          let index := reading.groups + 1
          set { reading with groups := index }
          advance true
          let body ←
            if (← get).next matches .closeGroup then pure .empty else alternatives fuel (depth + 1)
          if !((← get).next matches .closeGroup) then throw .unmatchedParenthesis
          modify fun reading => { reading with complete := index :: reading.complete }
          isRepeated (.group index body)
      | .closeGroup => throw .unmatchedClosing
      | .reference index =>
          if !(reading.complete.contains index) then throw .invalidReference
          isRepeated (.sameAs index)
      | .anchor kind =>
          advance false
          return .anchor kind
      | .star => if reading.extended then throw .invalidPreceding else asCharacter '*'
      | .plus => if reading.extended then throw .invalidPreceding else asCharacter '+'
      | .mayBe => if reading.extended then throw .invalidPreceding else asCharacter '?'
      | .openCount => throw .invalidPreceding
      | .closeCount => asCharacter '\x7d'
      | .loneBackslash => throw .trailingBackslash
      | .endOfText | .bar => return .empty

end

/-- Read a regular expression. The number tells how many groups it has. -/
def parse (extended ignoreCase : Bool) (text : List Char) : Except Problem (Regex × Nat) := do
  let reader : Reader Regex := do
    advance false
    alternatives (4 * text.length + 8) 0
  let (regex, reading) ← reader { extended, ignoreCase, rest := text }
  return (regex, reading.groups)

end QueryFoundry.Sandbox.Regex
