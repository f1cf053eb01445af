import Mathlib.Algebra.Group.Nat.Defs
import Mathlib.Data.List.Forall2
import Mathlib.Data.List.TakeDrop
import Mathlib.Tactic.ByContra
import QueryFoundry.Toml.Document

/-!
# Reading what is written

What readers make of texts that are written for them: keys without quotes, strings, truth values,
numbers and lists of strings. A judgement says that a reader takes a text from the front of what
lies before it, wherever in a document that is, and it is composed as readers are.
-/

namespace QueryFoundry.Toml

variable {α β : Type}

/-- From the front of a text and what follows it, a reader takes the text and gives an answer with
a property, at whatever distance from the start. -/
def Reads (reader : Reader α) (text rest : List Char) (property : α → Prop) : Prop :=
  ∀ offset, ∃ answer after,
    reader ⟨offset, text ++ rest⟩ = some (answer, ⟨after, rest⟩) ∧ property answer

namespace Reads

variable {reader : Reader α} {next : α → Reader β} {text rest : List Char}
variable {property : α → Prop} {goal : β → Prop}

theorem mono {weaker : α → Prop} (reads : Reads reader text rest property)
    (weakens : ∀ answer, property answer → weaker answer) : Reads reader text rest weaker := by
  intro offset
  obtain ⟨answer, after, read, holds⟩ := reads offset
  exact ⟨answer, after, read, weakens answer holds⟩

protected theorem pure {answer : α} (holds : property answer) :
    Reads (pure answer) [] rest property :=
  fun offset => ⟨answer, offset, rfl, holds⟩

theorem bind_of_eq {start between : Cursor} {answer : α}
    (read : reader start = some (answer, between)) (next : α → Reader β) :
    (reader >>= next) start = next answer between :=
  congrArg (fun result : Option (α × Cursor) => result.bind fun pair => next pair.1 pair.2) read

protected theorem bind {back : List Char} (first : Reads reader text (back ++ rest) property)
    (second : ∀ answer, property answer → Reads (next answer) back rest goal) :
    Reads (reader >>= next) (text ++ back) rest goal := by
  intro offset
  obtain ⟨answer, between, read, holds⟩ := first offset
  obtain ⟨last, after, readBehind, holdsLast⟩ := second answer holds between
  rw [← List.append_assoc] at read
  exact ⟨last, after, (bind_of_eq read next).trans readBehind, holdsLast⟩

theorem before (first : Reads reader [] (text ++ rest) property)
    (second : ∀ answer, property answer → Reads (next answer) text rest goal) :
    Reads (reader >>= next) text rest goal :=
  first.bind second

theorem after (first : Reads reader text rest property)
    (second : ∀ answer, property answer → Reads (next answer) [] rest goal) :
    Reads (reader >>= next) text rest goal := by
  rw [← List.append_nil text]
  exact Reads.bind first second

theorem spanned (reads : Reads reader text rest property) :
    Reads (Reader.spanned reader) text rest fun answer => property answer.1 := by
  intro offset
  obtain ⟨answer, after, read, holds⟩ := reads offset
  refine ⟨(answer, ⟨offset, after⟩), after, ?_, holds⟩
  change (reader >>= fun value => do return (value, (⟨offset, ← Reader.offset⟩ : Span))) _ = _
  rw [bind_of_eq read]
  rfl

theorem look {next : Cursor → Reader α}
    (reads : ∀ offset, Reads (next ⟨offset, text ++ rest⟩) text rest property) :
    Reads (get >>= next) text rest property :=
  fun offset => reads offset offset

theorem peek {next : Option Char → Reader α}
    (reads : Reads (next (text ++ rest).head?) text rest property) :
    Reads (Reader.peek? >>= next) text rest property :=
  reads

theorem sees {word : String} {next : Bool → Reader α}
    (reads : Reads (next (word.toList.isPrefixOf (text ++ rest))) text rest property) :
    Reads (Reader.sees word >>= next) text rest property :=
  reads

theorem spanned_bind_eq_none {next : α × Span → Reader β} {place : Cursor}
    (fails : reader place = none) : (Reader.spanned reader >>= next) place = none := by
  have none : Reader.spanned reader place = none :=
    congrArg (fun read : Option (α × Cursor) => read.bind fun pair =>
      some ((pair.1, (⟨place.offset, pair.2.offset⟩ : Span)), pair.2)) fails
  exact congrArg (fun read : Option ((α × Span) × Cursor) => read.bind fun pair =>
    next pair.1 pair.2) none

theorem orElse {first : Reader α} (fails : ∀ offset, first ⟨offset, text ++ rest⟩ = none)
    (reads : Reads reader text rest property) : Reads (first <|> reader) text rest property := by
  intro offset
  obtain ⟨answer, after, read, holds⟩ := reads offset
  refine ⟨answer, after, ?_, holds⟩
  simpa [HOrElse.hOrElse, OrElse.orElse, Alternative.orElse, StateT.orElse, fails offset] using read

end Reads

open Reader

/-! ## Characters and words -/

section

variable {rest : List Char}

theorem reads_next (character : Char) : Reads next [character] rest (· = character) :=
  fun _ => ⟨character, _, rfl, rfl⟩

theorem Reads.character {next : Char → Reader β} {character : Char} {back : List Char}
    {goal : β → Prop} (second : Reads (next character) back rest goal) :
    Reads (Reader.next >>= next) (character :: back) rest goal :=
  fun offset => second (offset + character.utf8Size)

theorem reads_satisfy {property : Char → Bool} {character : Char} (holds : property character) :
    Reads (satisfy property) [character] rest (· = character) := by
  refine (reads_next character).after ?_
  rintro _ rfl
  rw [if_pos holds]
  exact .pure rfl

/-- Characters that a property takes are read one by one. -/
theorem reads_mapM {ι : Type} {reader : ι → Reader Char} {indices : List ι} {text : List Char}
    (length : indices.length = text.length)
    (each : ∀ index, ∀ character ∈ text, ∀ rest,
      Reads (reader index) [character] rest (· = character)) :
    Reads (indices.mapM reader) text rest (· = text) := by
  induction indices generalizing text with
  | nil =>
      obtain rfl := List.eq_nil_of_length_eq_zero length.symm
      exact .pure rfl
  | cons index indices ih =>
      cases text with
      | nil => cases length
      | cons character text =>
          rw [List.mapM_cons]
          rw [← List.singleton_append]
          refine Reads.bind (each index character (by simp) _) ?_
          rintro character rfl
          refine (ih (Nat.succ.inj length) fun index other member =>
            each index other (by simp [member])).after ?_
          rintro _ rfl
          exact .pure rfl

theorem reads_expect (word : String) : Reads (expect word) word.toList rest fun _ => True := by
  unfold expect
  refine .sees ?_
  have begins : word.toList.isPrefixOf (word.toList ++ rest) = true :=
    List.isPrefixOf_iff_prefix.mpr (List.prefix_append ..)
  rw [begins, if_pos rfl]
  exact (reads_mapM rfl fun _ character _ _ => reads_next character).after fun _ _ => .pure trivial

theorem reads_takeWhile {property : Char → Bool} {text : List Char}
    (each : ∀ character ∈ text, property character)
    (stops : ∀ character ∈ rest.head?, property character = false) :
    Reads (takeWhile property) text rest (· = text) := by
  intro offset
  have spanned : (text ++ rest).span property = (text, rest) := by
    rw [List.span_eq_takeWhile_dropWhile, List.takeWhile_append_of_pos each,
      List.dropWhile_append_of_pos each]
    cases rest with
    | nil => simp
    | cons character rest => simp [stops character rfl]
  exact ⟨text, _, by rw [takeWhile, spanned], rfl⟩

end

/-! ## Digits and strings -/

/-- The last digits of a number to the base 16, as many as asked for. -/
def hexDigits : Nat → Nat → List Char
  | 0, _ => []
  | width + 1, value => hexDigits width (value / 16) ++ [Nat.digitChar (value % 16)]

theorem hexValue?_digitChar : ∀ digit < 16, Text.hexValue? (Nat.digitChar digit) = some digit := by
  decide

@[simp]
theorem length_hexDigits (width value : Nat) : (hexDigits width value).length = width := by
  induction width generalizing value with
  | zero => rfl
  | succ width ih => simp [hexDigits, ih]

theorem isSome_hexValue?_of_mem {width value : Nat} {character : Char}
    (member : character ∈ hexDigits width value) : (Text.hexValue? character).isSome := by
  induction width generalizing value with
  | zero => cases member
  | succ width ih =>
      rcases List.mem_append.mp member with before | last
      · exact ih before
      · rw [List.mem_singleton.mp last, hexValue?_digitChar _ (Nat.mod_lt _ (by decide))]
        rfl

theorem digitsValue_hexDigits (width value : Nat) :
    digitsValue 16 (hexDigits width value) = value % 16 ^ width := by
  induction width generalizing value with
  | zero => simp [hexDigits, digitsValue, Nat.mod_one]
  | succ width ih =>
      have before := ih (value / 16)
      unfold digitsValue at before ⊢
      rw [hexDigits, List.foldl_append, before]
      simp only [List.foldl_cons, List.foldl_nil,
        hexValue?_digitChar _ (Nat.mod_lt value (by decide)), Option.getD_some]
      rw [Nat.pow_succ', Nat.mod_mul]
      omega

/-- A character by its code point. -/
def escape (character : Char) : List Char :=
  '\\' :: 'U' :: hexDigits 8 character.toNat

theorem length_le_length_flatMap_escape (characters : List Char) :
    characters.length ≤ (characters.flatMap escape).length := by
  induction characters with
  | nil => exact Nat.le_refl 0
  | cons character characters ih =>
      simp only [List.flatMap_cons, List.length_append, List.length_cons, escape]
      omega

def quoted (text : String) : List Char :=
  '"' :: (text.toList.flatMap escape ++ ['"'])

section

variable {rest : List Char}

theorem reads_codePoint (character : Char) :
    Reads (codePoint 8) (hexDigits 8 character.toNat) rest (· = character) := by
  have valid : character.toNat < 0xD800 ∨
      (0xE000 ≤ character.toNat ∧ character.toNat < 0x110000) := character.valid
  have small : character.toNat < 16 ^ 8 := by omega
  have value := digitsValue_hexDigits 8 character.toNat
  rw [Nat.mod_eq_of_lt small] at value
  refine (reads_mapM (by simp) fun _ _ member _ =>
    reads_satisfy (isSome_hexValue?_of_mem member)).after ?_
  rintro _ rfl
  unfold digitsValue at value
  simp only [value, if_pos valid]
  exact .pure (Char.ofNat_toNat character)

theorem reads_escaped (character : Char) :
    Reads escaped ('U' :: hexDigits 8 character.toNat) rest (· = character) := by
  exact .character (reads_codePoint character)

theorem reads_basicContent {fuel : Nat} {characters : List Char} (enough : characters.length < fuel)
    (read : List Char) :
    Reads (basicContent fuel read) (characters.flatMap escape ++ ['"']) rest
      (· = String.ofList (read.reverse ++ characters)) := by
  induction characters generalizing fuel read with
  | nil =>
      cases fuel with
      | zero => cases enough
      | succ fuel =>
          refine (reads_next '"').after ?_
          rintro _ rfl
          exact .pure (by simp)
  | cons character characters ih =>
      cases fuel with
      | zero => cases enough
      | succ fuel =>
          rw [List.flatMap_cons, List.append_assoc]
          refine .character (Reads.bind (reads_escaped character) ?_)
          rintro character rfl
          refine (ih (Nat.lt_of_succ_lt_succ enough) (character :: read)).mono ?_
          rintro _ rfl
          simp

/-- A quoted text is read back, unless another quote follows it. -/
theorem reads_quotedText (text : String) (closed : rest.head? ≠ some '"') :
    Reads quotedText (quoted text) rest (· = text) := by
  refine .look fun offset => ?_
  have enough : text.toList.length < (quoted text ++ rest).length + 1 := by
    have longer := length_le_length_flatMap_escape text.toList
    simp only [quoted, List.cons_append, List.length_cons, List.length_append]
    omega
  have single : "\"\"\"".toList.isPrefixOf (quoted text ++ rest) = false := by
    unfold quoted
    cases text.toList with
    | nil =>
        cases rest with
        | nil => rfl
        | cons character rest =>
            have other : '"' ≠ character := fun same => closed (congrArg some same.symm)
            simp [List.isPrefixOf, other]
    | cons character characters => rfl
  have notLiteral : "'''".toList.isPrefixOf (quoted text ++ rest) = false := rfl
  refine .sees ?_
  rw [single]
  refine .sees ?_
  rw [notLiteral]
  refine .look fun offset => ?_
  refine .character ((reads_basicContent enough []).mono ?_)
  rintro _ rfl
  simp

def IsText (text : String) (node : Node) : Prop :=
  ∃ span, node = .text span text

theorem reads_scalar_text (text : String) (closed : rest.head? ≠ some '"') :
    Reads scalar (quoted text) rest (IsText text) := by
  refine .peek ?_
  refine (reads_quotedText text closed).spanned.after ?_
  rintro ⟨_, span⟩ rfl
  exact .pure ⟨span, rfl⟩

theorem reads_scalar_boolean (value : Bool) :
    Reads scalar (toString value).toList rest fun node => ∃ span, node = .boolean span value := by
  cases value with
  | true =>
      refine .peek ?_
      refine (reads_expect "true").spanned.after ?_
      rintro ⟨_, span⟩ -
      exact .pure ⟨span, rfl⟩
  | false =>
      refine .peek ?_
      refine (reads_expect "false").spanned.after ?_
      rintro ⟨_, span⟩ -
      exact .pure ⟨span, rfl⟩

/-- What follows does not go on with a number. -/
def EndsNumber (rest : List Char) : Prop :=
  ∀ character ∈ rest.head?, (Text.hexValue? character).isSome = false ∧ character ≠ '_'

theorem reads_digitsTail {isDigit : Char → Bool} {fuel : Nat} {text : List Char}
    (enough : text.length < fuel) (each : ∀ character ∈ text, isDigit character)
    (unscored : isDigit '_' = false)
    (ends : ∀ character ∈ rest.head?, isDigit character = false ∧ character ≠ '_')
    (read : List Char) :
    Reads (digitsTail isDigit fuel read) text rest (· = read.reverse ++ text) := by
  induction text generalizing fuel read with
  | nil =>
      cases fuel with
      | zero => cases enough
      | succ fuel =>
          refine .peek ?_
          cases rest with
          | nil => exact .pure (List.append_nil _).symm
          | cons character rest =>
              obtain ⟨other, differs⟩ := ends character rfl
              split
              · rename_i scored
                exact absurd (Option.some.inj scored) differs
              · rename_i _ _ same
                obtain rfl := Option.some.inj same
                rw [if_neg (by simp [other])]
                exact .pure (List.append_nil _).symm
              · rename_i none
                cases none
  | cons character text ih =>
      cases fuel with
      | zero => cases enough
      | succ fuel =>
          have holds := each character (by simp)
          refine .peek ?_
          -- A digit is no underscore, so it is taken for itself.
          split
          · rename_i scored
            obtain rfl := Option.some.inj scored
            simp [unscored] at holds
          · rename_i _ _ same
            obtain rfl := Option.some.inj same
            rw [if_pos holds]
            refine .character ((ih (Nat.lt_of_succ_lt_succ enough)
              (fun other member => each other (by simp [member])) _).mono ?_)
            rintro _ rfl
            simp
          · rename_i none
            cases none

theorem reads_digits {isDigit : Char → Bool} {text : List Char} (nonempty : text ≠ [])
    (each : ∀ character ∈ text, isDigit character) (unscored : isDigit '_' = false)
    (ends : ∀ character ∈ rest.head?, isDigit character = false ∧ character ≠ '_') :
    Reads (digits isDigit) text rest (· = text) := by
  cases text with
  | nil => exact absurd rfl nonempty
  | cons first text =>
      rw [← List.singleton_append]
      refine Reads.bind (reads_satisfy (each first (by simp))) ?_
      rintro first rfl
      refine .look fun offset => ?_
      have enough : text.length < (text ++ rest).length + 1 := by
        rw [List.length_append]
        omega
      exact reads_digitsTail enough (fun character member => each character (by simp [member]))
        unscored ends _

/-- A number to the base 16, with as many digits as any number of 64 bits has. -/
def hexNumber (value : Nat) : List Char :=
  "0x".toList ++ hexDigits 16 value

theorem hexNumber_append (value : Nat) :
    hexNumber value ++ rest = '0' :: 'x' :: (hexDigits 16 value ++ rest) := by
  have mark : "0x".toList = ['0', 'x'] := by decide
  rw [hexNumber, mark, List.append_assoc, List.cons_append, List.cons_append, List.nil_append]

theorem datetime_eq_none (offset : Nat) (text : List Char) :
    datetime ⟨offset, '0' :: 'x' :: text⟩ = none := rfl

theorem float_eq_none (offset : Nat) (text : List Char) :
    (decimalFloat <|> specialFloat) ⟨offset, '0' :: 'x' :: text⟩ = none := rfl

theorem reads_integer {value : Nat} (fits : value < 2 ^ 63) (ends : EndsNumber rest) :
    Reads integer (hexNumber value) rest (· = (value : Int)) := by
  have value_eq := digitsValue_hexDigits 16 value
  rw [Nat.mod_eq_of_lt (by omega)] at value_eq
  unfold integer
  refine .sees ?_
  have marked : "0x".toList.isPrefixOf (hexNumber value ++ rest) = true := by
    rw [hexNumber, List.append_assoc]
    exact List.isPrefixOf_iff_prefix.mpr (List.prefix_append ..)
  rw [marked, if_pos rfl]
  refine Reads.bind (reads_expect "0x") fun _ _ => ?_
  have nonempty : hexDigits 16 value ≠ [] := by simp [← List.length_eq_zero_iff]
  refine (reads_digits nonempty (fun _ member => isSome_hexValue?_of_mem member) (by decide)
    ends).after ?_
  intro digits same
  have small : value < UInt64.size / 2 := by simpa [UInt64.size] using fits
  rw [same, value_eq, signed64, if_neg Bool.false_ne_true, if_pos small]
  exact .pure rfl

theorem reads_scalar_integer {value : Nat} (fits : value < 2 ^ 63) (ends : EndsNumber rest) :
    Reads scalar (hexNumber value) rest fun node => ∃ span, node = .integer span value := by
  refine .peek ?_
  rw [hexNumber_append]
  refine .orElse ?_ (.orElse ?_ ?_)
  · intro offset
    rw [hexNumber_append]
    exact Reads.spanned_bind_eq_none (datetime_eq_none offset _)
  · intro offset
    rw [hexNumber_append]
    exact Reads.spanned_bind_eq_none (float_eq_none offset _)
  · refine (reads_integer fits ends).spanned.after ?_
    rintro ⟨_, span⟩ rfl
    exact .pure ⟨span, rfl⟩

/-! ## Values -/

theorem reads_value_of_scalar {text : List Char} {property : Node → Prop} {fuel level : Nat}
    (opens : (text ++ rest).head? ≠ some '[') (braces : (text ++ rest).head? ≠ some '\x7b')
    (reads : Reads scalar text rest property) :
    Reads (value (fuel + 1) level) text rest property := by
  unfold value
  refine .peek ?_
  split
  · exact absurd ‹_› opens
  · exact absurd ‹_› braces
  · exact reads

/-- What follows starts with neither a blank, a line end nor a comment. -/
def StartsItem (rest : List Char) : Prop :=
  ∀ character ∈ rest.head?, isLineBlank character = false ∧ character ≠ '#' ∧ character ≠ '\n' ∧
    character ≠ '\r'

theorem reads_skipLineBlanks
    (solid : ∀ character ∈ rest.head?, isLineBlank character = false) :
    Reads skipLineBlanks [] rest fun _ => True := by
  refine (reads_takeWhile ?_ solid).after fun _ _ => .pure trivial
  simp

theorem reads_skipBetweenValues (fuel : Nat) (solid : StartsItem rest) :
    Reads (skipBetweenValues (fuel + 1)) [] rest fun _ => True := by
  unfold skipBetweenValues
  refine (reads_skipLineBlanks fun character member => (solid character member).1).before
    fun _ _ => .peek ?_
  split
  · rename_i comment
    exact absurd rfl (solid _ comment).2.1
  · rename_i lineEnd
    exact absurd rfl (solid _ lineEnd).2.2.1
  · rename_i lineEnd
    exact absurd rfl (solid _ lineEnd).2.2.2
  · exact .pure trivial

def quotedItems (texts : List String) : List Char :=
  texts.flatMap fun text => quoted text ++ [',']

def quotedList (texts : List String) : List Char :=
  '[' :: (quotedItems texts ++ [']'])

theorem length_lt_length_quotedList (texts : List String) :
    texts.length < (quotedList texts).length := by
  have items : texts.length ≤ (quotedItems texts).length := by
    induction texts with
    | nil => exact Nat.le_refl 0
    | cons text texts ih =>
        simp only [quotedItems, List.flatMap_cons, List.length_append, List.length_cons] at ih ⊢
        omega
  simp only [quotedList, List.length_cons, List.length_append]
  omega

theorem startsItem_cons {character : Char} (solid : isLineBlank character = false ∧
    character ≠ '#' ∧ character ≠ '\n' ∧ character ≠ '\r') : StartsItem (character :: rest) := by
  intro first same
  obtain rfl := Option.some.inj same
  exact solid

/-- A text in a list is read up to its comma. -/
theorem reads_item {goal : α → Prop} {next : Node → Reader α} {back : List Char} (text : String)
    (fuel level : Nat)
    (second : ∀ node, IsText text node → Reads (next node) (',' :: back) rest goal) :
    Reads (do
      skipBetweenValues (fuel + 2)
      let item ← value (fuel + 1) level
      skipBetweenValues (fuel + 2)
      next item) (quoted text ++ ',' :: back) rest goal := by
  refine (reads_skipBetweenValues _ (startsItem_cons (by decide))).before fun _ _ => ?_
  have item : Reads (value (fuel + 1) level) (quoted text) (',' :: back ++ rest) (IsText text) :=
    reads_value_of_scalar (by simp [quoted]) (by simp [quoted]) (reads_scalar_text text (by simp))
  refine item.bind fun node isText => ?_
  refine (reads_skipBetweenValues _ (startsItem_cons (by decide))).before fun _ _ => ?_
  exact second node isText

theorem reads_arrayItems {fuel : Nat} {text : String} {texts : List String}
    (enough : texts.length + 1 < fuel) (level : Nat) (read : List Node) :
    Reads (arrayItems fuel level read) (quotedItems (text :: texts) ++ [']']) rest fun nodes =>
      ∃ more, nodes = read.reverse ++ more ∧ List.Forall₂ IsText (text :: texts) more := by
  induction texts generalizing fuel text read with
  | nil =>
      obtain ⟨fuel, rfl⟩ : ∃ less, fuel = less + 2 := ⟨fuel - 2, by omega⟩
      have spelled : quotedItems [text] ++ [']'] = quoted text ++ [',', ']'] := by
        simp [quotedItems]
      rw [spelled]
      unfold arrayItems
      refine reads_item text fuel level fun node isText => .character ?_
      refine (reads_skipBetweenValues _ (startsItem_cons (by decide))).before fun _ _ => .peek ?_
      refine .character (.pure ⟨[node], by simp, .cons isText .nil⟩)
  | cons second texts ih =>
      obtain ⟨fuel, rfl⟩ : ∃ less, fuel = less + 2 := ⟨fuel - 2, by omega⟩
      have spelled : quotedItems (text :: second :: texts) ++ [']'] =
          quoted text ++ ',' :: (quotedItems (second :: texts) ++ [']']) := by
        simp [quotedItems]
      rw [spelled]
      unfold arrayItems
      refine reads_item text fuel level fun node isText => .character ?_
      refine (reads_skipBetweenValues _ (startsItem_cons (by decide))).before fun _ _ => .peek ?_
      refine (ih (by simpa using enough) (node :: read)).mono ?_
      rintro _ ⟨more, rfl, areTexts⟩
      exact ⟨node :: more, by simp, .cons isText areTexts⟩

theorem reads_value_list {fuel : Nat} {texts : List String} (enough : texts.length < fuel) :
    Reads (value (fuel + 1) 0) (quotedList texts) rest fun node =>
      ∃ span items, node = .array span items ∧ List.Forall₂ IsText texts items := by
  have items : Reads (do
      expect "["
      skipBetweenValues (fuel + 1)
      if (← peek?) == some ']' then
        let _ ← next
        return []
      else arrayItems fuel 1 []) (quotedList texts) rest (List.Forall₂ IsText texts) := by
    refine Reads.bind (reads_expect "[") fun _ _ => ?_
    cases texts with
    | nil =>
        refine (reads_skipBetweenValues _ (startsItem_cons (by decide))).before fun _ _ => .peek ?_
        exact .character (.pure .nil)
    | cons text texts =>
        refine (reads_skipBetweenValues _ (startsItem_cons (by decide))).before fun _ _ => .peek ?_
        refine (reads_arrayItems enough 1 []).mono ?_
        rintro _ ⟨more, rfl, areTexts⟩
        simpa using areTexts
  unfold value
  refine .peek ?_
  refine items.spanned.after ?_
  rintro ⟨nodes, span⟩ areTexts
  exact .pure ⟨span, nodes, rfl, areTexts⟩

/-! ## Lines -/

/-- A name that needs no quotes as a key. -/
def IsBare (name : String) : Prop :=
  name.toList ≠ [] ∧ ∀ character ∈ name.toList, isBareCharacter character

instance : DecidablePred IsBare := fun name =>
  decidable_of_iff (name.toList ≠ [] ∧ name.toList.all isBareCharacter) (by simp [IsBare])

/-- What follows a key does not go on with it. -/
def EndsKey (rest : List Char) : Prop :=
  ∀ character ∈ rest.head?, isBareCharacter character = false ∧ isLineBlank character = false ∧
    character ≠ '.'

theorem IsBare.head {name : String} (bare : IsBare name) :
    ∀ character ∈ (name.toList ++ rest).head?, isBareCharacter character := by
  obtain ⟨nonempty, each⟩ := bare
  cases characters : name.toList with
  | nil => exact absurd characters nonempty
  | cons first others =>
      rintro character same
      obtain rfl := Option.some.inj same
      exact each first (by simp [characters])

theorem isLineBlank_of_isBareCharacter {character : Char} (bare : isBareCharacter character) :
    isLineBlank character = false := by
  by_contra blank
  have isBlank : character = ' ' ∨ character = '\t' := by
    simpa [isLineBlank, or_iff_not_imp_left] using blank
  rcases isBlank with rfl | rfl
  · exact absurd bare (by decide)
  · exact absurd bare (by decide)

theorem reads_simpleKey {name : String} (bare : IsBare name) (ends : EndsKey rest) :
    Reads simpleKey name.toList rest (·.text = name) := by
  unfold simpleKey
  refine Reads.after (Reads.spanned (?_ : Reads _ name.toList rest (· = name))) ?_
  · refine .peek ?_
    split
    · rename_i quote
      exact absurd (bare.head _ quote) (by decide)
    · rename_i quote
      exact absurd (bare.head _ quote) (by decide)
    · refine (reads_takeWhile bare.2 fun character member => (ends character member).1).after ?_
      rintro _ rfl
      rw [if_neg (by simpa using bare.1), String.ofList_toList]
      exact .pure rfl
  · rintro ⟨_, span⟩ rfl
    exact .pure rfl

/-- The keys of a name without points. -/
def IsKey (name : String) (keys : List Key) : Prop :=
  ∃ key, keys = [key] ∧ key.text = name

theorem reads_dottedKey {name : String} (bare : IsBare name) (ends : EndsKey rest) :
    Reads dottedKey name.toList rest (IsKey name) := by
  unfold dottedKey
  have solid : ∀ character ∈ (name.toList ++ rest).head?, isLineBlank character = false :=
    fun character member => isLineBlank_of_isBareCharacter (bare.head character member)
  refine (reads_skipLineBlanks solid).before fun _ _ => ?_
  refine (reads_simpleKey bare ends).after fun key named => .look fun offset => ?_
  have alone : Reads (keyTail (([] ++ rest : List Char).length + 1) [key]) [] rest
      (· = [key]) := by
    unfold keyTail
    refine (reads_skipLineBlanks fun character member => (ends character member).2.1).before
      fun _ _ => .peek ?_
    have pointless : (rest.head? == some '.') = false := by
      cases rest with
      | nil => rfl
      | cons character rest => simpa using (ends character rfl).2.2
    rw [List.nil_append, pointless]
    exact .pure rfl
  refine alone.after ?_
  rintro _ rfl
  exact .pure ⟨key, rfl, named⟩

theorem reads_lineTail : Reads lineTail ['\n'] rest fun _ => True := by
  exact fun offset => ⟨(), _, rfl, trivial⟩

theorem reads_header {name : String} (bare : IsBare name) :
    Reads header ('[' :: (name.toList ++ [']'])) rest fun header =>
      header.1 = false ∧ IsKey name header.2 := by
  unfold header
  have single : "[[".toList.isPrefixOf ('[' :: (name.toList ++ [']']) ++ rest) = false := by
    cases characters : name.toList with
    | nil => exact absurd characters bare.1
    | cons first others =>
        have other : '[' ≠ first := by
          rintro rfl
          exact absurd (bare.2 '[' (by simp [characters])) (by decide)
        simp [List.isPrefixOf, other]
  refine .sees ?_
  rw [single]
  refine Reads.bind (reads_expect "[") fun _ _ => ?_
  have ends : EndsKey (']' :: rest) := by
    rintro _ ⟨⟩
    decide
  refine (reads_dottedKey bare ends).bind fun keys named => ?_
  exact (reads_expect "]").after fun _ _ => .pure ⟨rfl, named⟩

theorem reads_entry {name : String} {text : List Char} {property : Node → Prop} {fuel : Nat}
    (bare : IsBare name) (solid : ∀ character ∈ (text ++ rest).head?, isLineBlank character = false)
    (reads : Reads (value fuel 0) text rest property) :
    Reads (entry fuel) (name.toList ++ '=' :: text) rest fun entry =>
      IsKey name entry.1 ∧ property entry.2 := by
  have ends : EndsKey ('=' :: text ++ rest) := by
    rintro _ ⟨⟩
    decide
  refine (reads_dottedKey bare ends).bind fun keys named => ?_
  refine Reads.bind (reads_expect "=") fun _ _ => ?_
  refine (reads_skipLineBlanks solid).before fun _ _ => ?_
  exact reads.after fun node holds => .pure ⟨named, holds⟩

variable {draft : Draft} {name : String} {fuel lines : Nat} {back : List Char}
variable {goal : Draft → Prop}

/-- A line with a header opens a table. -/
theorem reads_headerLine (bare : IsBare name)
    (opens : ∀ key span, key.text = name →
      ∃ opened, draft.openTable false [key] span = some opened ∧
        Reads (documentLines fuel lines opened) back rest goal) :
    Reads (documentLines fuel (lines + 1) draft) ('[' :: (name.toList ++ [']']) ++ '\n' :: back)
      rest goal := by
  unfold documentLines
  refine (reads_skipLineBlanks ?_).before fun _ _ => .peek ?_
  · rintro _ ⟨⟩
    decide
  refine Reads.bind (reads_header bare).spanned ?_
  rintro ⟨⟨isArrayItem, keys⟩, span⟩ ⟨rfl, key, rfl, named⟩
  obtain ⟨opened, open_eq, reads⟩ := opens key span named
  rw [← List.singleton_append (x := '\n')]
  refine reads_lineTail.bind fun _ _ => ?_
  rw [open_eq]
  exact reads

/-- A line with an entry puts it into the open table. -/
theorem reads_entryLine {text : List Char} {property : Node → Prop} (bare : IsBare name)
    (solid : ∀ character ∈ (text ++ '\n' :: (back ++ rest)).head?, isLineBlank character = false)
    (value : Reads (value fuel 0) text ('\n' :: (back ++ rest)) property)
    (puts : ∀ key node, key.text = name → property node →
      ∃ extended, draft.putEntry [key] node = some extended ∧
        Reads (documentLines fuel lines extended) back rest goal) :
    Reads (documentLines fuel (lines + 1) draft) (name.toList ++ '=' :: text ++ '\n' :: back)
      rest goal := by
  unfold documentLines
  have head : ∀ character ∈ (name.toList ++ '=' :: text ++ '\n' :: back ++ rest).head?,
      isBareCharacter character := by
    rw [List.append_assoc, List.append_assoc]
    exact bare.head
  refine (reads_skipLineBlanks fun character member =>
    isLineBlank_of_isBareCharacter (head character member)).before fun _ _ => .peek ?_
  split
  · rename_i none
    simp at none
  · rename_i comment
    exact absurd (head _ comment) (by decide)
  · rename_i lineEnd
    exact absurd (head _ lineEnd) (by decide)
  · rename_i lineEnd
    exact absurd (head _ lineEnd) (by decide)
  · rename_i bracket
    exact absurd (head _ bracket) (by decide)
  · refine Reads.bind (reads_entry bare solid value) ?_
    rintro ⟨keys, node⟩ ⟨⟨key, rfl, named⟩, holds⟩
    obtain ⟨extended, put_eq, reads⟩ := puts key node named holds
    rw [← List.singleton_append (x := '\n')]
    refine reads_lineTail.bind fun _ _ => ?_
    rw [put_eq]
    exact reads

/-- Behind the last line there is nothing more to read. -/
theorem reads_noLine (reached : goal draft) :
    Reads (documentLines fuel (lines + 1) draft) [] [] goal :=
  fun offset => ⟨draft, offset, rfl, reached⟩

end

end QueryFoundry.Toml
