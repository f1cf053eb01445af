import QueryFoundry.Text.Octets

/-!
# Patterns for names

Patterns in which a star stands for any characters, a question mark for one character and brackets
for one of several.
-/

namespace QueryFoundry.Sandbox.Pattern

/-- A class of characters. -/
inductive CharacterClass where
  | alnum | alpha | blank | cntrl | digit | graph | lower | print | punct | space | upper | xdigit
deriving DecidableEq, Repr

namespace CharacterClass

/-- The classes with their names. -/
def all : List (String × CharacterClass) :=
  [("alnum", alnum), ("alpha", alpha), ("blank", blank), ("cntrl", cntrl), ("digit", digit),
    ("graph", graph), ("lower", lower), ("print", print), ("punct", punct), ("space", space),
    ("upper", upper), ("xdigit", xdigit)]

/-- Whether a character belongs to a class. -/
def admits (character : Char) : CharacterClass → Bool
  | alnum => character.isAlphanum
  | alpha => character.isAlpha
  | blank => character == ' ' || character == '\t'
  | cntrl => character.toNat < 32 || character.toNat == 127
  | digit => character.isDigit
  | graph => 32 < character.toNat && character.toNat < 127
  | lower => character.isLower
  | print => 32 ≤ character.toNat && character.toNat < 127
  | punct => 32 < character.toNat && character.toNat < 127 && !character.isAlphanum
  | space => character == ' ' || (9 ≤ character.toNat && character.toNat ≤ 13)
  | upper => character.isUpper
  | xdigit => (Text.hexValue? character).isSome

end CharacterClass

/-- What brackets may stand for. -/
inductive Member where
  | range (low high : Char)
  | ofClass (value : CharacterClass)
deriving DecidableEq, Repr

/-- The place of a byte in the order of bytes with a sign. -/
def signedValue (character : Char) : Int :=
  if character.toNat < 128 then character.toNat else (character.toNat : Int) - 256

/-- Whether a member of brackets stands for a character. -/
def Member.admits (character : Char) : Member → Bool
  | range low high =>
      signedValue low ≤ signedValue character && signedValue character ≤ signedValue high
  | ofClass value => value.admits character

/-- An item of a pattern. -/
inductive Item where
  | anything
  | anyOne
  | exactly (character : Char)
  /-- One character that some members stand for, or that none of them stands for. -/
  | oneOf (negated : Bool) (members : List Member)
deriving DecidableEq, Repr

/-- A character of a pattern as it is written, and whether it may have a meaning of its own. -/
abbrev Written := Char × Bool

/-- Take the meaning of the characters behind backslashes. -/
def escape : List Written → List Written
  | ('\\', true) :: (character, _) :: rest => (character, false) :: escape rest
  | ('\\', true) :: [] => [('\\', false)]
  | written :: rest => written :: escape rest
  | [] => []

/-- The class whose name follows an opening bracket, and the number of characters of the name. -/
def classBehind? (text : List Written) : Option (CharacterClass × Nat) :=
  (CharacterClass.all.find? fun entry =>
    ((":" ++ entry.1 ++ ":]").toList.map fun character => (character, true)).isPrefixOf text).map
      fun entry => (entry.2, entry.1.length + 3)

/-- The members of brackets up to the closing one, and the number of characters that were read. The
first character is a member, whatever it is. -/
def members? : Nat → List Written → Option (List Member × Nat)
  | 0, _ => none
  | _, [] => none
  | fuel + 1, (character, active) :: rest =>
      let goesOn (member : Member) (read : Nat) (behind : List Written) :
          Option (List Member × Nat) :=
        match behind with
        | (']', true) :: _ => some ([member], read + 1)
        | _ => (members? fuel behind).map fun (members, more) => (member :: members, read + more)
      let single : Option (List Member × Nat) := goesOn (.range character character) 1 rest
      let ranged : Option (List Member × Nat) :=
        match rest with
        | ('-', true) :: (']', true) :: _ => single
        | ('-', true) :: (high, _) :: behind => goesOn (.range character high) 3 behind
        | _ => single
      if character == '[' && active then
        match classBehind? rest with
        | some (value, length) => goesOn (.ofClass value) (length + 1) (rest.drop length)
        | none => ranged
      else ranged

/-- The contents of brackets behind the opening one, and the number of characters up to and with the
closing one. -/
def brackets? (text : List Written) : Option (Item × Nat) :=
  let (negated, body) := match text with
    | ('!', true) :: rest => (true, rest)
    | _ => (false, text)
  (members? (body.length + 1) body).map fun (members, length) =>
    (.oneOf negated members, length + if negated then 1 else 0)

/-- Read a pattern without backslashes. `skip` counts the characters of the brackets last read that
are still to be passed over. -/
def readFrom : Nat → List Written → List Item
  | _, [] => []
  | skip + 1, _ :: rest => readFrom skip rest
  | 0, (character, active) :: rest =>
      if !active then .exactly character :: readFrom 0 rest
      else if character == '*' then .anything :: readFrom 0 rest
      else if character == '?' then .anyOne :: readFrom 0 rest
      else if character == '[' then
        match brackets? rest with
        | some (item, length) => item :: readFrom length rest
        | none => .exactly character :: readFrom 0 rest
      else .exactly character :: readFrom 0 rest

/-- Read a pattern. -/
def read (text : List Written) : List Item :=
  readFrom 0 (escape text)

/-- Whether an item other than the star stands for a character. -/
def Item.admits (character : Char) : Item → Bool
  | anything | anyOne => true
  | exactly expected => character == expected
  | oneOf negated members => (members.any (Member.admits character)) != negated

/-- Whether a pattern stands for a text. -/
def matchesText : List Item → List Char → Bool
  | [], text => text.isEmpty
  | .anything :: items, [] => matchesText items []
  | .anything :: items, character :: rest =>
      matchesText items (character :: rest) || matchesText (.anything :: items) rest
  | _ :: _, [] => false
  | item :: items, character :: rest => item.admits character && matchesText items rest
termination_by items text => items.length + text.length

/-- Whether a bracket is closed behind the opening one, in front of the next slash. -/
def isClosed : List Written → Bool
  | ('/', _) :: _ => false
  | _ :: (']', true) :: _ => true
  | _ :: rest => isClosed rest
  | [] => false

/-- Whether a part of a path may stand for several names. -/
def mayMatchMany : List Written → Bool
  | [] => false
  | ('*', true) :: _ | ('?', true) :: _ => true
  | ('[', true) :: ('!', true) :: rest => isClosed rest || mayMatchMany (('!', true) :: rest)
  | ('[', true) :: rest => isClosed rest || mayMatchMany rest
  | _ :: rest => mayMatchMany rest

end QueryFoundry.Sandbox.Pattern
