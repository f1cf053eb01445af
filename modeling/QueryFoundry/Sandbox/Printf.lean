import QueryFoundry.Decimal.Shortest
import QueryFoundry.Sandbox.Quotation

/-!
# Formatted output

The texts that a format with directives stands for: escapes are replaced, each directive takes an
argument, and the format is used again as long as there are arguments left. Shells and programs
follow slightly different rules, which are collected in one record.
-/

namespace QueryFoundry.Sandbox.Printf

open Text (Octets)

/-- The rules in which formats differ. -/
structure Rules where
  /-- Whether what makes no sense is refused. Then bytes may be written as hexadecimal numbers and
  characters by their numbers, the escape `\c` ends the output in a format, too, and an argument may
  be quoted for a shell. -/
  isStrict : Bool
  /-- The letters that may stand in front of a conversion and mean nothing. -/
  sizes : List Char
  /-- The number of bits of the significand that numbers with a fraction are rounded to. -/
  significantBits : Nat

/-- The rules of the command of a shell. -/
def shellRules : Rules :=
  { isStrict := false, sizes := [], significantBits := 53 }

/-- The rules of the program. -/
def programRules : Rules :=
  { isStrict := true, sizes := ['l', 'L', 'h', 'j', 't', 'z'], significantBits := 64 }

/-- Why printing is given up. -/
inductive Failure where
  | unknownDirective (written : Octets)
  | missingCharacter
  | missingDigits
  /-- No character has the number that is written. -/
  | invalidNumber (written : Octets)
  | widthTooLarge (argument : Octets)
  | precisionTooLarge (argument : Octets)
deriving DecidableEq, Repr

/-- The value of some octal digits, as a byte. -/
def octalByte (digits : List Char) : Char :=
  Char.ofNat ((digits.foldl (fun value digit => value * 8 + (digit.toNat - '0'.toNat)) 0) % 256)

/-- Whether a character is an octal digit. -/
def isOctal (character : Char) : Bool :=
  '0' ≤ character && character ≤ '7'

/-- The octal digits in front of a text, at most three. -/
def octalDigits (text : List Char) : List Char :=
  (text.take 3).takeWhile isOctal

/-- The character that a letter behind a backslash stands for. -/
def simpleEscape? : Char → Option Char
  | '\\' => some '\\'
  | 'a' => some '\x07'
  | 'b' => some '\x08'
  | 'e' => some '\x1b'
  | 'f' => some '\x0c'
  | 'n' => some '\n'
  | 'r' => some '\r'
  | 't' => some '\t'
  | 'v' => some '\x0b'
  | _ => none

/-- What an escape behind its backslash stands for. -/
inductive Escape where
  /-- Characters in the place of a number of characters of the text. -/
  | characters (value : List Char) (length : Nat)
  /-- Nothing more is to be printed. -/
  | stop
  | failing (failure : Failure)

/-- The value of some hexadecimal digits. -/
def hexValue (digits : List Char) : Nat :=
  digits.foldl (fun value digit => value * 16 + (Text.hexValue? digit).getD 0) 0

/-- Digits of a base, filled with zeros to a length. -/
def filledDigits (base length number : Nat) : List Char :=
  let digits := Nat.toDigits base number
  List.replicate (length - digits.length) '0' ++ digits

/-- The hexadecimal digits in front of a text, at most a number of them. -/
def hexDigits (limit : Nat) (text : List Char) : List Char :=
  (text.take limit).takeWhile fun digit => (Text.hexValue? digit).isSome

/-- The character with the number that is written behind a letter. Where only seven bits can be
printed, others are written as escapes. -/
def readNumbered (letter : Char) (length : Nat) (text : List Char) : Escape :=
  let digits := hexDigits length text
  let number := hexValue digits
  if digits.length < length then .failing .missingDigits
  else if 0xd800 ≤ number && number ≤ 0xdfff then
    .failing (.invalidNumber (String.ofList ('\\' :: letter :: filledDigits 16 length number)))
  else
    let shown := if number < 128 then [Char.ofNat number]
      else if number < 0x10000 then
        ['\\', 'u'] ++ (filledDigits 16 4 number).map Char.toUpper
      else ['\\', 'U'] ++ (filledDigits 16 8 number).map Char.toUpper
    .characters shown (1 + length)

/-- Read an escape behind its backslash. Where `inText` holds, it stands in a text that is not a
format: an octal number may start with an additional zero, and the output can be ended. -/
def readEscape (rules : Rules) (inText : Bool) (text : List Char) : Escape :=
  match text with
  | [] => .characters ['\\'] 0
  | character :: rest =>
      if character == 'c' && (inText || rules.isStrict) then .stop
      else if character == 'x' && rules.isStrict then
        let digits := hexDigits 2 rest
        if digits.isEmpty then .failing .missingDigits
        else .characters [Char.ofNat (hexValue digits)] (1 + digits.length)
      else if character == 'u' && rules.isStrict then readNumbered 'u' 4 rest
      else if character == 'U' && rules.isStrict then readNumbered 'U' 8 rest
      else if character == '"' && rules.isStrict then .characters ['"'] 1
      else
        match simpleEscape? character with
        | some value => .characters [value] 1
        | none =>
            if inText && character == '0' then
              let digits := octalDigits rest
              .characters [octalByte digits] (1 + digits.length)
            else if isOctal character then
              let digits := octalDigits text
              .characters [octalByte digits] digits.length
            else if rules.isStrict then .characters ['\\', character] 1
            else .characters ['\\'] 0

/-- A text whose escapes are replaced, up to where printing is to end. -/
structure Unescaped where
  text : List Char := []
  stopped : Bool := false
  failure : Option Failure := none

/-- Replace the escapes of a text. -/
def unescapeFrom (rules : Rules) : Nat → List Char → Unescaped
  | _, [] => {}
  | skip + 1, _ :: rest => unescapeFrom rules skip rest
  | 0, '\\' :: rest =>
      match readEscape rules true rest with
      | .stop => { stopped := true }
      | .failing failure => { stopped := true, failure := some failure }
      | .characters value length =>
          let later := unescapeFrom rules length rest
          { later with text := value ++ later.text }
  | 0, character :: rest =>
      let later := unescapeFrom rules 0 rest
      { later with text := character :: later.text }

/-- Replace the escapes of a text. -/
def unescape (rules : Rules) (text : Octets) : Unescaped :=
  unescapeFrom rules 0 text.toList

/-- How an argument is laid out. -/
structure Layout where
  left : Bool := false
  plus : Bool := false
  space : Bool := false
  alternate : Bool := false
  zero : Bool := false
  /-- Whether the digits are to be grouped, which they never are. -/
  grouped : Bool := false
  width : Nat := 0
  precision : Option Nat := none

/-- A part of a format. -/
inductive Part where
  | literal (text : List Char)
  /-- A directive; a width or precision that is a star is taken from the arguments. -/
  | directive (written : Octets) (layout : Layout) (starWidth starPrecision : Bool)
      (conversion : Char)
  /-- Printing is given up. -/
  | failing (failure : Failure)
  | stop

/-- The flags in front of a directive. -/
def readFlags (rules : Rules) : Layout → List Char → Layout × List Char
  | layout, '-' :: rest => readFlags rules { layout with left := true } rest
  | layout, '+' :: rest => readFlags rules { layout with plus := true } rest
  | layout, ' ' :: rest => readFlags rules { layout with space := true } rest
  | layout, '#' :: rest => readFlags rules { layout with alternate := true } rest
  | layout, '0' :: rest => readFlags rules { layout with zero := true } rest
  | layout, '\'' :: rest =>
      if rules.isStrict then readFlags rules { layout with grouped := true } rest
      else (layout, '\'' :: rest)
  | layout, 'I' :: rest =>
      if rules.isStrict then readFlags rules { layout with grouped := true } rest
      else (layout, 'I' :: rest)
  | layout, rest => (layout, rest)

/-- Whether a conversion makes sense with a layout. -/
def isAllowed (layout : Layout) (hasPrecision : Bool) (conversion : Char) : Bool :=
  let isOf (letters : String) : Bool := letters.toList.contains conversion
  isOf "aAcdeEfFgGiosuxX" && !(layout.grouped && isOf "aAceEosxX") &&
    !(layout.alternate && isOf "cdisu") && !(layout.zero && isOf "cs") &&
    !(hasPrecision && isOf "c")

/-- The number that some digits denote. -/
def decimalValue (digits : List Char) : Nat :=
  digits.foldl (fun value digit => value * 10 + (digit.toNat - '0'.toNat)) 0

/-- A directive behind its percent sign, and the number of its characters. -/
def readDirective (rules : Rules) (text : List Char) : Part × Nat :=
  let (flags, afterFlags) := readFlags rules {} text
  let (starWidth, width, afterWidth) := match afterFlags with
    | '*' :: rest => (true, 0, rest)
    | _ =>
        let digits := afterFlags.takeWhile Char.isDigit
        (false, decimalValue digits, afterFlags.drop digits.length)
  let (starPrecision, precision, afterPrecision) := match afterWidth with
    | '.' :: '*' :: rest => (true, none, rest)
    | '.' :: rest =>
        let digits := rest.takeWhile Char.isDigit
        (false, some (decimalValue digits), rest.drop digits.length)
    | _ => (false, none, afterWidth)
  match afterPrecision.dropWhile rules.sizes.contains with
  | [] =>
      let failure := if rules.isStrict then .unknownDirective ("%" ++ String.ofList text)
        else .missingCharacter
      (.failing failure, text.length)
  | conversion :: rest =>
      let length := text.length - rest.length
      let written := "%" ++ String.ofList (text.take length)
      let isBare := length == 1 && (conversion == 'b' || conversion == 'q')
      let hasPrecision := starPrecision || precision.isSome
      if rules.isStrict && !isBare && !(isAllowed flags hasPrecision conversion) then
        (.failing (.unknownDirective written), length)
      else
        (.directive written { flags with width, precision } starWidth starPrecision conversion,
          length)

/-- The parts of a format. `skip` counts the characters of the part last read that are still to be
passed over. -/
def readParts (rules : Rules) : Nat → List Char → List Part
  | _, [] => []
  | skip + 1, _ :: rest => readParts rules skip rest
  | 0, '\\' :: rest =>
      match readEscape rules false rest with
      | .stop => [.stop]
      | .failing failure => [.failing failure]
      | .characters value length => .literal value :: readParts rules length rest
  | 0, '%' :: '%' :: rest => .literal ['%'] :: readParts rules 1 ('%' :: rest)
  | 0, '%' :: rest =>
      let (part, length) := readDirective rules rest
      part :: readParts rules length rest
  | 0, character :: rest => .literal [character] :: readParts rules 0 rest

/-- Fill a text to the width of a layout. -/
def pad (layout : Layout) (text : List Char) : List Char :=
  let filling := List.replicate (layout.width - text.length) ' '
  if layout.left then text ++ filling else filling ++ text

/-- Lay out a number with its sign. -/
def layoutNumber (layout : Layout) (sign digits : List Char) : List Char :=
  let minimum := layout.precision.getD 1
  let digits := if digits == ['0'] && layout.precision == some 0 then [] else digits
  let padded := List.replicate (minimum - digits.length) '0' ++ digits
  if layout.zero && !layout.left && layout.precision.isNone then
    sign ++ List.replicate (layout.width - sign.length - padded.length) '0' ++ padded
  else pad layout (sign ++ padded)

/-- What is wrong with an argument that should be a number. -/
inductive Fault where
  | notNumeric
  /-- More follows the number. -/
  | incomplete
  | outOfRange
  /-- A text follows a character that stands for its number. -/
  | ignored (text : Octets)
deriving DecidableEq, Repr

/-- What is wrong with an argument of which a number of characters is left behind the number; nothing
of it may have been read. -/
def faultOf? (rules : Rules) (isRead : Bool) (left : Nat) (isOutside : Bool) : Option Fault :=
  if isOutside && rules.isStrict then some .outOfRange
  else if 0 < left then some (if isRead then .incomplete else .notNumeric)
  else if isOutside then some .outOfRange
  else none

/-- What is wrong with the text behind a quote that asks for the number of a character. -/
def characterFault? (rules : Rules) (text : List Char) : Option Fault :=
  match text with
  | [] => if rules.isStrict then some .notNumeric else none
  | _ :: rest =>
      if rules.isStrict && !rest.isEmpty then some (.ignored (String.ofList rest)) else none

/-- A blank in front of a number. -/
def isBlank (character : Char) : Bool :=
  character == ' ' || (9 ≤ character.toNat && character.toNat ≤ 13)

/-- The sign in front of a number, and what follows it. -/
def readSign : List Char → Bool × List Char
  | '-' :: rest => (true, rest)
  | '+' :: rest => (false, rest)
  | text => (false, text)

/-- The number of 64 bits that an argument denotes. A quote stands for the number of the character
behind it. -/
def integerOf (rules : Rules) (unsigned : Bool) (argument : Octets) : Int × Option Fault :=
  match argument.toList with
  | '\'' :: rest | '"' :: rest =>
      ((rest.head?.map Char.toNat).getD 0, characterFault? rules rest)
  | characters =>
      let (negative, text) := readSign (characters.dropWhile isBlank)
      let isHex (digits : List Char) : Bool := (digits.head?.bind Text.hexValue?).isSome
      let (base, body) : Nat × List Char := match text with
        | '0' :: 'x' :: rest | '0' :: 'X' :: rest => if isHex rest then (16, rest) else (8, text)
        | '0' :: _ => (8, text)
        | _ => (10, text)
      let (digits, behind) := body.span fun digit => (Text.hexValue? digit).any (· < base)
      let value : Int :=
        digits.foldl (fun value digit => value * base + ((Text.hexValue? digit).getD 0 : Nat)) 0
      let signed := if negative then -value else value
      let left := if digits.isEmpty then characters.length else behind.length
      let greatest : Int := 9223372036854775807
      let (nearest, isOutside) : Int × Bool :=
        if unsigned then
          if (UInt64.size : Int) ≤ value then (UInt64.size - 1, true)
          else (signed % UInt64.size, false)
        else if greatest < signed then (greatest, true)
        else if signed < -greatest - 1 then (-greatest - 1, true)
        else (signed, false)
      (nearest, faultOf? rules (!digits.isEmpty) left isOutside)

/-- The digits in front of a text and behind a point in it, and what follows them. -/
def readFraction (isDigit : Char → Bool) (text : List Char) :
    List Char × List Char × List Char :=
  let (whole, behind) := text.span isDigit
  match behind with
  | '.' :: rest =>
      let (fraction, after) := rest.span isDigit
      if whole.isEmpty && fraction.isEmpty then ([], [], text) else (whole, fraction, after)
  | _ => (whole, [], behind)

/-- The exponent behind one of two letters, if one follows, and what follows it. -/
def readExponent (small large : Char) (text : List Char) : Int × List Char :=
  match text with
  | mark :: rest =>
      let (negative, digits) := readSign rest
      let (taken, behind) := digits.span Char.isDigit
      let value : Int := decimalValue taken
      if (mark == small || mark == large) && !taken.isEmpty then
        (if negative then -value else value, behind)
      else (0, text)
  | [] => (0, [])

/-- The magnitude nearest to a ratio with a significand of a number of bits. -/
def nearest (bits numerator denominator : Nat) : Binary64.Magnitude :=
  if numerator == 0 then .zero
  else
    let exponent := Binary64.Magnitude.binaryExponent numerator denominator - (bits - 1 : Nat)
    let significand := Binary64.Magnitude.scaledQuotient numerator denominator exponent
    if significand == Nat.pow 2 bits then ⟨significand / 2, exponent + 1⟩
    else ⟨significand, exponent⟩

/-- The number nearest to a ratio under some rules. -/
def rounded (rules : Rules) (negative : Bool) (numerator denominator : Nat) : Binary64 :=
  if rules.significantBits == 53 then Binary64.ofRatio negative numerator denominator
  else if denominator * Nat.pow 2 16384 ≤ numerator then .infinite negative
  else .finite negative (nearest rules.significantBits numerator denominator)

/-- The number that a text starts with, with an optional fraction and exponent, and what follows it.
-/
def readReal? (rules : Rules) (characters : List Char) : Option (Binary64 × List Char) :=
  let (negative, text) := readSign (characters.dropWhile isBlank)
  let startsWith (word : String) : Bool :=
    word.toList.isPrefixOf (text.map Char.toLower)
  let isHexDigit (digit : Char) : Bool := (Text.hexValue? digit).isSome
  let (hexWhole, hexFraction, hexBehind) := readFraction isHexDigit (text.drop 2)
  if startsWith "infinity" then some (.infinite negative, text.drop 8)
  else if startsWith "inf" then some (.infinite negative, text.drop 3)
  else if startsWith "nan" then some (.notANumber, text.drop 3)
  else if startsWith "0x" && !(hexWhole.isEmpty && hexFraction.isEmpty) then
    let (exponent, behind) := readExponent 'p' 'P' hexBehind
    let digits := (hexWhole ++ hexFraction).foldl
      (fun value digit => value * 16 + (Text.hexValue? digit).getD 0) 0
    let power := exponent - 4 * hexFraction.length
    let capped := max (-20000) (min 20000 power)
    some (if capped < 0 then rounded rules negative digits (Nat.pow 2 (-capped).toNat)
      else rounded rules negative (digits * Nat.pow 2 capped.toNat) 1, behind)
  else
    let (whole, fraction, afterDigits) := readFraction Char.isDigit text
    if whole.isEmpty && fraction.isEmpty then none
    else
      let (exponent, behind) := readExponent 'e' 'E' afterDigits
      let digits := decimalValue (whole ++ fraction)
      let power := exponent - fraction.length
      if rules.significantBits == 53 then some (Binary64.ofDecimal negative digits power, behind)
      else
        let capped := max (-5000) (min 5000 power)
        some (if capped < 0 then rounded rules negative digits (Nat.pow 10 (-capped).toNat)
          else rounded rules negative (digits * Nat.pow 10 capped.toNat) 1, behind)

/-- The number that an argument denotes with an optional fraction and exponent. A quote stands for
the number of the character behind it. -/
def fractionOf (rules : Rules) (argument : Octets) : Binary64 × Option Fault :=
  match argument.toList with
  | '\'' :: rest | '"' :: rest =>
      (Binary64.ofRatio false ((rest.head?.map Char.toNat).getD 0) 1, characterFault? rules rest)
  | characters =>
      match readReal? rules characters with
      | none => (.finite false .zero, faultOf? rules false characters.length false)
      | some (value, behind) =>
          let isOutside := match value with
            | .infinite _ => characters.any Char.isDigit
            | _ => false
          (value, faultOf? rules true behind.length isOutside)

/-- The digits of a magnitude with a number of decimals behind the first one, and the power of ten
of the first one. -/
def scientificDigits (decimals : Nat) (magnitude : Binary64.Magnitude) : List Char × Int :=
  if magnitude.significand == 0 then (List.replicate (decimals + 1) '0', 0)
  else
    let (numerator, denominator) := magnitude.ratio
    let exponent := Binary64.Magnitude.decimalExponent numerator denominator
    let (scaled, divisor) :=
      Binary64.Magnitude.shiftedRatio numerator denominator (exponent - decimals)
    let digits := Nat.toDigits 10 (roundQuotient scaled divisor)
    if digits.length == decimals + 1 then (digits, exponent)
    else (digits.take (decimals + 1), exponent + 1)

/-- Digits with a point behind the first one. -/
def pointed (alternate : Bool) (digits : List Char) : List Char :=
  match digits with
  | [only] => if alternate then [only, '.'] else [only]
  | first :: rest => first :: '.' :: rest
  | [] => []

/-- A magnitude with an exponent, written with a number of decimals. -/
def scientificText (alternate : Bool) (decimals : Nat) (magnitude : Binary64.Magnitude) :
    List Char :=
  let (digits, exponent) := scientificDigits decimals magnitude
  let exponentDigits := Nat.toDigits 10 exponent.natAbs
  pointed alternate digits ++ ['e', if exponent < 0 then '-' else '+'] ++
    List.replicate (2 - exponentDigits.length) '0' ++ exponentDigits

/-- A magnitude without an exponent, written with a number of decimals. -/
def fixedText (alternate : Bool) (decimals : Nat) (magnitude : Binary64.Magnitude) : List Char :=
  let text := (Decimal.fixedPlaces decimals magnitude).toList
  if decimals == 0 && !alternate then text.filter (· != '.') else text

/-- Drop zeros at the end of decimals, and the point if nothing is left behind it. -/
def dropZeros (text : List Char) : List Char :=
  if text.contains '.' then
    match text.reverse.dropWhile (· == '0') with
    | '.' :: rest => rest.reverse
    | kept => kept.reverse
  else text

/-- A magnitude with a number of significant digits, in the shorter one of the two ways. -/
def generalText (alternate : Bool) (significant : Nat) (magnitude : Binary64.Magnitude) :
    List Char :=
  let significant := max 1 significant
  let exponent := (scientificDigits (significant - 1) magnitude).2
  if exponent < -4 || (significant : Int) ≤ exponent then
    let text := scientificText alternate (significant - 1) magnitude
    let mantissa := text.takeWhile (· != 'e')
    (if alternate then mantissa else dropZeros mantissa) ++ text.drop mantissa.length
  else
    let text := fixedText alternate ((significant : Int) - 1 - exponent).toNat magnitude
    if alternate then text else dropZeros text

/-- A magnitude in hexadecimal digits with a power of two. The first digit holds one bit, or four of a
longer significand. -/
def hexText (rules : Rules) (layout : Layout) (magnitude : Binary64.Magnitude) : List Char :=
  let leading := if rules.significantBits == 53 then 1 else 4
  let places := (rules.significantBits - leading) / 4
  let length := (Nat.toDigits 2 magnitude.significand).length
  let isSmall := rules.significantBits == 53 && length < 53
  let shift := if isSmall then 0 else rules.significantBits - length
  let significand := magnitude.significand * Nat.pow 2 shift
  let exponent : Int := if magnitude.significand == 0 then 0
    else magnitude.exponent - shift + 4 * places
  let unit := Nat.pow 16 (places - layout.precision.getD places)
  let roundedOff := roundQuotient significand unit * unit
  let digits := Nat.toDigits 16 roundedOff
  let padded := List.replicate (places + 1 - digits.length) '0' ++ digits
  let whole := padded.take (padded.length - places)
  let fraction := padded.drop (padded.length - places)
  let shown := match layout.precision with
    | some precision =>
        fraction.take precision ++ List.replicate (precision - places) '0'
    | none => ((fraction.reverse.dropWhile (· == '0')).reverse)
  ['0', 'x'] ++ whole ++ (if shown.isEmpty && !layout.alternate then [] else ['.']) ++ shown ++
    ['p', if exponent < 0 then '-' else '+'] ++ Nat.toDigits 10 exponent.natAbs

/-- Lay out a number with a fraction as one of the letters `a`, `e`, `f` and `g` says. -/
def layoutFraction (rules : Rules) (layout : Layout) (conversion : Char) (value : Binary64) :
    List Char :=
  let precision := layout.precision.getD 6
  let (negative, isFinite, body) : Bool × Bool × List Char := match value with
    | .finite negative magnitude =>
        (negative, true, match conversion.toLower with
          | 'a' => hexText rules layout magnitude
          | 'e' => scientificText layout.alternate precision magnitude
          | 'f' => fixedText layout.alternate precision magnitude
          | _ => generalText layout.alternate precision magnitude)
    | .infinite negative => (negative, false, "inf".toList)
    | .notANumber => (false, false, "nan".toList)
  let sign := if negative then ['-'] else if layout.plus then ['+']
    else if layout.space then [' '] else []
  let shown := if conversion.isUpper then body.map Char.toUpper else body
  let start := if conversion.toLower == 'a' && isFinite then sign ++ shown.take 2 else sign
  let digits := if conversion.toLower == 'a' && isFinite then shown.drop 2 else shown
  if layout.zero && !layout.left && isFinite then
    start ++ List.replicate (layout.width - start.length - digits.length) '0' ++ digits
  else pad layout (start ++ digits)

/-- The result of printing, and whether to stop. -/
structure Outcome where
  output : List Char := []
  /-- What was wrong with arguments, and how much had been printed in front of that. -/
  faults : List (Nat × Octets × Fault) := []
  stopped : Bool := false
  failure : Option Failure := none
  /-- The arguments that were not used. -/
  rest : List Octets := []

/-- What a directive makes of its argument. -/
def convert (rules : Rules) (printed : Nat) (written : Octets) (layout : Layout)
    (conversion : Char) (argument : Option Octets) : Outcome :=
  let text := argument.getD ""
  let cut (characters : List Char) : List Char :=
    match layout.precision with
    | some length => characters.take length
    | none => characters
  let told (fault : Option Fault) : List (Nat × Octets × Fault) :=
    match argument, fault with
    | some text, some fault => [(printed, text, fault)]
    | _, _ => []
  let (unsigned, unsignedFault) := integerOf rules true text
  let unsignedText (start digits : List Char) : Outcome :=
    { output := layoutNumber layout (if unsigned == 0 then [] else start) digits
      faults := told unsignedFault }
  match conversion with
  | 's' => { output := pad layout (cut text.toList) }
  | 'b' =>
      let unescaped := unescape rules text
      { output := pad layout (cut unescaped.text), stopped := unescaped.stopped
        failure := unescaped.failure }
  | 'c' => { output := pad layout [text.toList.headD '\x00'] }
  | 'd' | 'i' =>
      let (value, fault) := integerOf rules false text
      let sign := if value < 0 then ['-'] else if layout.plus then ['+']
        else if layout.space then [' '] else []
      { output := layoutNumber layout sign (Nat.toDigits 10 value.natAbs), faults := told fault }
  | 'u' => unsignedText [] (Nat.toDigits 10 unsigned.toNat)
  | 'o' => unsignedText (if layout.alternate then ['0'] else []) (Nat.toDigits 8 unsigned.toNat)
  | 'x' =>
      unsignedText (if layout.alternate then ['0', 'x'] else []) (Nat.toDigits 16 unsigned.toNat)
  | 'X' =>
      unsignedText (if layout.alternate then ['0', 'X'] else [])
        ((Nat.toDigits 16 unsigned.toNat).map Char.toUpper)
  | 'a' | 'A' | 'e' | 'E' | 'f' | 'F' | 'g' | 'G' =>
      let (fraction, fault) := fractionOf rules text
      { output := layoutFraction rules layout conversion fraction, faults := told fault }
  | 'q' =>
      if rules.isStrict then { output := (Quotation.forShellIfNeeded false text).toList }
      else { stopped := true, failure := some (.unknownDirective written) }
  | _ => { stopped := true, failure := some (.unknownDirective written) }

/-- Print the parts of a format once. -/
def printOnce (rules : Rules) : List Part → List Octets → Outcome → Outcome
  | [], arguments, outcome => { outcome with rest := arguments }
  | .stop :: _, arguments, outcome => { outcome with stopped := true, rest := arguments }
  | .failing failure :: _, arguments, outcome =>
      { outcome with stopped := true, failure := some failure, rest := arguments }
  | .literal text :: parts, arguments, outcome =>
      printOnce rules parts arguments { outcome with output := outcome.output ++ text }
  | .directive written layout starWidth starPrecision conversion :: parts, arguments, outcome =>
      let printed := outcome.output.length
      let star (isStar : Bool) (arguments : List Octets) :
          Option Int × List (Nat × Octets × Fault) × List Octets :=
        if isStar then
          let (value, fault) := integerOf rules false (arguments.headD "")
          (some value, (fault.map (printed, arguments.headD "", ·)).toList, arguments.drop 1)
        else (none, [], arguments)
      let (width, widthFaults, afterWidth) := star starWidth arguments
      let (precision, precisionFaults, afterPrecision) := star starPrecision afterWidth
      let laidOut := { layout with
        left := layout.left || width.any (· < 0)
        width := (width.map Int.natAbs).getD layout.width
        precision := match precision with
          | some value => if value < 0 then none else some value.toNat
          | none => layout.precision }
      let isLarge (value : Option Int) : Bool :=
        rules.isStrict && value.any fun number => 2147483647 < number
      let failure := if isLarge width then some (.widthTooLarge (arguments.headD ""))
        else if isLarge precision then some (.precisionTooLarge (afterWidth.headD ""))
        else none
      let converted : Outcome := match failure with
        | some failure => { stopped := true, failure := some failure }
        | none => convert rules printed written laidOut conversion afterPrecision.head?
      let joined : Outcome :=
        { output := outcome.output ++ converted.output
          faults := outcome.faults ++ widthFaults ++ precisionFaults ++ converted.faults
          stopped := converted.stopped
          failure := converted.failure }
      if joined.stopped then { joined with rest := afterPrecision.drop 1 }
      else printOnce rules parts (afterPrecision.drop 1) joined

/-- Print a format again and again as long as it takes arguments and some are left. -/
def printAll (rules : Rules) (parts : List Part) : Nat → List Octets → Outcome → Outcome
  | 0, _, outcome => outcome
  | fuel + 1, arguments, outcome =>
      let printed := printOnce rules parts arguments outcome
      if printed.stopped || printed.rest.isEmpty || printed.rest.length == arguments.length then
        printed
      else printAll rules parts fuel printed.rest printed

/-- Print a format with its arguments. -/
def print (rules : Rules) (format : Octets) (arguments : List Octets) : Outcome :=
  printAll rules (readParts rules 0 format.toList) (arguments.length + 1) arguments {}

end QueryFoundry.Sandbox.Printf
