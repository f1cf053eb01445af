import QueryFoundry.Json.Reader
import QueryFoundry.Proofs.SectionWriting
import Std.Data.String.ToInt
import Std.Data.String.ToNat

/-!
# Reading printed JSON values

A value that is printed over several lines is read back, however deep it is nested, if its numbers
are whole and fit into 64 bits and no object in it has two members of one key. A judgement says that
the text of a value is read off the front of whatever may follow it there. It is proved for each
kind of value from the same judgement on its parts.
-/

namespace QueryFoundry.Json

/-- A value that its text determines: its numbers are whole and have a place among those of 64 bits,
and no object in it has two members of one key. -/
inductive IsReadable : Json → Prop
  | null : IsReadable null
  | bool (value : Bool) : IsReadable (bool value)
  | whole {value : Int} (low : -(2 ^ 63) ≤ value) (high : value < 2 ^ 64) :
      IsReadable (whole value)
  | text (value : String) : IsReadable (text value)
  | array {items : List Json} (each : ∀ item ∈ items, IsReadable item) : IsReadable (array items)
  | object {members : List (String × Json)} (distinct : (members.map Prod.fst).Nodup)
      (each : ∀ member ∈ members, IsReadable member.2) : IsReadable (object members)

/-- What stands behind a value: a comma, a new line or nothing. -/
def Stops (rest : List Char) : Prop :=
  ∀ character ∈ rest.head?, character = ',' ∨ character = '\n'

/-- With enough fuel, a value is read off a text, whatever follows that. -/
def ReadsAs (text : List Char) (value : Json) : Prop :=
  ∀ fuel rest, text.length < fuel → Stops rest → readValue fuel (text ++ rest) = some (value, rest)

theorem ReadsAs.of_succ {text : List Char} {value : Json}
    (reads : ∀ fuel rest, text.length ≤ fuel → Stops rest →
      readValue (fuel + 1) (text ++ rest) = some (value, rest)) : ReadsAs text value := by
  intro fuel rest enough stops
  cases fuel with
  | zero => cases enough
  | succ fuel => exact reads fuel rest (Nat.le_of_lt_succ enough) stops

/-! ## Blanks -/

theorem skipBlanks_append {blanks : List Char} (blank : ∀ character ∈ blanks, isBlank character)
    (rest : List Char) : skipBlanks (blanks ++ rest) = skipBlanks rest :=
  List.dropWhile_append_of_pos blank

theorem skipBlanks_cons {character : Char} (notBlank : isBlank character = false)
    (rest : List Char) : skipBlanks (character :: rest) = character :: rest := by
  simp [skipBlanks, notBlank]

theorem isBlank_of_mem_newLine {level : Nat} : ∀ character ∈ newLine level, isBlank character := by
  intro character member
  rcases List.mem_cons.mp member with rfl | indented
  · rfl
  · rw [List.eq_of_mem_replicate indented]
    rfl

@[simp]
theorem skipBlanks_newLine (level : Nat) (rest : List Char) :
    skipBlanks (newLine level ++ rest) = skipBlanks rest :=
  skipBlanks_append isBlank_of_mem_newLine rest

theorem readValue_append {blanks : List Char} (blank : ∀ character ∈ blanks, isBlank character)
    (fuel : Nat) (rest : List Char) : readValue fuel (blanks ++ rest) = readValue fuel rest := by
  cases fuel with
  | zero => rfl
  | succ fuel => rw [readValue, readValue, skipBlanks_append blank]

/-! ## Strings -/

theorem hexUnit?_fourHexDigits {number : Nat} (small : number < 65536) (rest : List Char) :
    hexUnit? (fourHexDigits number ++ rest) = some (number, rest) := by
  have digit (value : Nat) : Text.hexValue? (Nat.digitChar (value % 16)) = some (value % 16) :=
    Toml.hexValue?_digitChar _ (Nat.mod_lt _ (by decide))
  simp only [fourHexDigits, List.map_cons, List.map_nil, List.cons_append, List.nil_append,
    hexUnit?, List.mapM_cons, List.mapM_nil, digit, Option.bind_eq_bind, Option.bind_some,
    Option.pure_def, List.foldl_cons, List.foldl_nil]
  congr
  omega

/-- A control character is read from its code unit: it is no part of a surrogate pair. -/
theorem escapedUnit?_fourHexDigits {character : Char} (control : character.toNat < 0x20)
    (rest : List Char) :
    escapedUnit? (fourHexDigits character.toNat ++ rest) = some (character, rest) := by
  have small : character.toNat < 65536 := by omega
  have notHigh : ¬(0xD800 ≤ character.toNat ∧ character.toNat < 0xDC00) := by omega
  have notLow : ¬(0xDC00 ≤ character.toNat ∧ character.toNat < 0xE000) := by omega
  simp only [escapedUnit?, hexUnit?_fourHexDigits small, Option.bind_eq_bind, Option.bind_some,
    if_neg notHigh, if_neg notLow, Char.ofNat_toNat]

def shortEscaped : List Char := ['"', '\\', '\n', '\r', '\t', '\x08', '\x0c']

/-- A character is read back, in whichever way it was escaped. -/
theorem readString_escapeCharacter (fuel : Nat) (read : List Char) (character : Char)
    (rest : List Char) :
    readString (fuel + 1) read (escapeCharacter character ++ rest) =
      readString fuel (character :: read) rest := by
  by_cases short : character ∈ shortEscaped
  · have each : ∀ special ∈ shortEscaped,
        readString (fuel + 1) read (escapeCharacter special ++ rest) =
          readString fuel (special :: read) rest := by
      simp only [shortEscaped, List.forall_mem_cons]
      exact ⟨rfl, rfl, rfl, rfl, rfl, rfl, rfl, List.forall_mem_nil _⟩
    exact each character short
  · simp only [shortEscaped, List.mem_cons, List.not_mem_nil, or_false, not_or] at short
    by_cases control : character.toNat < 0x20
    · have escaped : escapeCharacter character = '\\' :: 'u' :: fourHexDigits character.toNat := by
        simp [escapeCharacter, short, control]
      rw [escaped, List.cons_append, List.cons_append, readString,
        escapedUnit?_fourHexDigits control]
    · have plain : escapeCharacter character = [character] := by
        simp [escapeCharacter, short, control]
      rw [plain, List.singleton_append, readString]
      · rw [if_neg (by simp [short, control])]
      all_goals simp [short]

theorem readString_flatMap {fuel : Nat} {characters : List Char}
    (enough : characters.length < fuel) (read rest : List Char) :
    readString fuel read (characters.flatMap escapeCharacter ++ '"' :: rest) =
      some (String.ofList (read.reverse ++ characters), rest) := by
  induction characters generalizing fuel read with
  | nil =>
      obtain ⟨fuel, rfl⟩ := Nat.exists_eq_succ_of_ne_zero (Nat.ne_zero_of_lt enough)
      simp [readString]
  | cons character characters ih =>
      obtain ⟨fuel, rfl⟩ := Nat.exists_eq_succ_of_ne_zero (Nat.ne_zero_of_lt enough)
      rw [List.flatMap_cons, List.append_assoc, readString_escapeCharacter,
        ih (Nat.lt_of_succ_lt_succ enough)]
      simp

theorem length_le_length_flatMap (characters : List Char) :
    characters.length ≤ (characters.flatMap escapeCharacter).length := by
  induction characters with
  | nil => exact Nat.le_refl 0
  | cons character characters ih =>
      have nonempty : 0 < (escapeCharacter character).length := by
        unfold escapeCharacter
        split_ifs <;> simp
      simp only [List.flatMap_cons, List.length_append, List.length_cons]
      omega

theorem readString_quoted {text : String} {behind rest : List Char}
    (quoted : behind = text.toList.flatMap escapeCharacter ++ '"' :: rest) :
    readString (behind.length + 1) [] behind = some (text, rest) := by
  subst quoted
  have longer := length_le_length_flatMap text.toList
  rw [readString_flatMap (by rw [List.length_append]; omega)]
  simp

theorem quoteChars_append (text : String) (rest : List Char) :
    quoteChars text ++ rest = '"' :: (text.toList.flatMap escapeCharacter ++ '"' :: rest) := by
  simp [quoteChars]

theorem readsAs_text (value : String) : ReadsAs (quoteChars value) (text value) := by
  refine .of_succ fun fuel rest enough _ => ?_
  rw [quoteChars_append, readValue, skipBlanks_cons (by decide)]
  simp only [readString_quoted rfl, Option.map_some]

/-! ## Words and numbers -/

theorem readsAs_null : ReadsAs ['n', 'u', 'l', 'l'] null := by
  refine .of_succ fun fuel rest enough _ => ?_
  simp [readValue, skipBlanks_cons, isBlank, dropWord?]

theorem readsAs_bool (value : Bool) : ReadsAs (scalarChars (bool value)) (bool value) := by
  refine .of_succ fun fuel rest enough _ => ?_
  cases value <;> simp [scalarChars, readValue, skipBlanks_cons, isBlank, dropWord?]

/-- Only zero is written with a zero in front. -/
theorem eq_zero_of_head?_toDigits {number : Nat}
    (first : (Nat.toDigits 10 number).head? = some '0') : number = 0 := by
  induction number using Nat.strongRecOn with
  | ind number ih =>
      by_cases small : number < 10
      · have digit : ∀ digit < 10, Nat.digitChar digit = '0' → digit = 0 := by decide
        rw [Nat.toDigits_of_lt_base small, List.head?_cons, Option.some.injEq] at first
        exact digit number small first
      · rw [Nat.toDigits_of_base_le (by decide) (by omega),
          List.head?_append_of_ne_nil _ Nat.toDigits_ne_nil] at first
        have front := ih (number / 10) (by omega) first
        omega

theorem digitsValue_toDigits (number : Nat) : digitsValue (Nat.toDigits 10 number) = number := by
  have same : digitsValue (Nat.toDigits 10 number) =
      Nat.ofDigitChars 10 (Nat.toDigits 10 number) 0 := by
    rw [Nat.ofDigitChars_eq_foldl, digitsValue]
    simp only [Nat.mul_comm]
  rw [same, Nat.ofDigitChars_toDigits (by decide) (by decide)]

theorem spanDigits_append {digits rest : List Char} (each : ∀ digit ∈ digits, digit.isDigit)
    (stops : Stops rest) : spanDigits (digits ++ rest) = (digits, rest) := by
  rw [spanDigits, List.span_eq_takeWhile_dropWhile, List.takeWhile_append_of_pos each,
    List.dropWhile_append_of_pos each]
  cases rest with
  | nil => simp
  | cons character rest =>
      rcases stops character rfl with rfl | rfl <;> simp

/-- Nothing that stands behind a value goes on with a number. -/
theorem readFraction?_of_stops {rest : List Char} (stops : Stops rest) :
    readFraction? rest = some (none, rest) ∧ readExponent? rest = some (none, rest) := by
  cases rest with
  | nil => exact ⟨rfl, rfl⟩
  | cons character rest =>
      rcases stops character rfl with rfl | rfl <;> exact ⟨rfl, rfl⟩

theorem readNumber?_toDigits {negative : Bool} {number : Nat} {value : Int} {rest : List Char}
    (fits : wholeOfDigits? negative number = some value) (stops : Stops rest) :
    readNumber? negative (Nat.toDigits 10 number ++ rest) = some (whole value, rest) := by
  have digits : ∀ digit ∈ Nat.toDigits 10 number, digit.isDigit := fun _ member =>
    Nat.isDigit_of_mem_toDigits (by decide) (by decide) member
  have plain : ¬((Nat.toDigits 10 number).isEmpty ∨
      (Nat.toDigits 10 number).head? = some '0' ∧ 1 < (Nat.toDigits 10 number).length) := by
    rintro (empty | ⟨first, long⟩)
    · exact Nat.toDigits_ne_nil (List.isEmpty_iff.mp empty)
    · obtain rfl := eq_zero_of_head?_toDigits first
      exact absurd long (by decide)
  obtain ⟨noFraction, noExponent⟩ := readFraction?_of_stops stops
  simp only [readNumber?, spanDigits_append digits stops, if_neg plain, noFraction, noExponent,
    Option.bind_eq_bind, Option.bind_some, digitsValue_toDigits, fits]

/-- The characters that tell in front of a value, or of the end of an array, what follows. -/
def signs : List Char := [' ', '\t', '\n', '\r', '"', '[', ']', '\x7b', '-', 'n', 't', 'f']

theorem ne_of_isDigit {digit : Char} (isDigit : digit.isDigit) : ∀ sign ∈ signs, digit ≠ sign := by
  have noDigit : signs.all (!·.isDigit) := by decide
  rintro sign member rfl
  have notDigit := List.all_eq_true.mp noDigit digit member
  simp [isDigit] at notDigit

theorem isBlank_of_isDigit {digit : Char} (isDigit : digit.isDigit) : isBlank digit = false := by
  have other := ne_of_isDigit isDigit
  simp only [signs, List.forall_mem_cons] at other
  simp [isBlank, other]

theorem readValue_of_digit {digit : Char} (isDigit : digit.isDigit) (fuel : Nat)
    (rest : List Char) :
    readValue (fuel + 1) (digit :: rest) = readNumber? false (digit :: rest) := by
  have other := ne_of_isDigit isDigit
  simp only [signs, List.forall_mem_cons] at other
  rw [readValue, skipBlanks_cons (isBlank_of_isDigit isDigit)]
  split <;> simp_all

theorem exists_toDigits_eq (number : Nat) :
    ∃ digit digits, Nat.toDigits 10 number = digit :: digits ∧ digit.isDigit := by
  obtain ⟨digit, digits, written⟩ :=
    List.exists_cons_of_ne_nil (Nat.toDigits_ne_nil (b := 10) (n := number))
  exact ⟨digit, digits, written,
    Nat.isDigit_of_mem_toDigits (by decide) (by decide) (written ▸ List.mem_cons_self)⟩

theorem readsAs_whole {value : Int} (low : -(2 ^ 63) ≤ value) (high : value < 2 ^ 64) :
    ReadsAs (toString value).toList (whole value) := by
  refine .of_succ fun fuel rest _ stops => ?_
  rw [Int.toString_eq_repr, Int.repr_eq_if]
  split
  next natural =>
    have fits : wholeOfDigits? false value.toNat = some value := by
      have small : value.toNat < UInt64.size := by
        rw [UInt64.size]
        omega
      simp only [wholeOfDigits?, Bool.false_eq_true, if_false, if_pos small,
        Int.toNat_of_nonneg natural]
    obtain ⟨digit, digits, written, isDigit⟩ := exists_toDigits_eq value.toNat
    rw [Nat.toList_repr, ← readNumber?_toDigits fits stops, written]
    exact readValue_of_digit isDigit fuel _
  next negative =>
    have fits : wholeOfDigits? true (-value).toNat = some value := by
      have placed : 0 < (-value).toNat ∧ (-value).toNat ≤ UInt64.size / 2 := by
        rw [UInt64.size]
        omega
      simp only [wholeOfDigits?, if_true, if_pos placed, Option.some.injEq]
      omega
    rw [String.toList_append, Nat.toList_repr, List.append_assoc,
      ← readNumber?_toDigits fits stops]
    rfl

/-! ## Arrays and objects -/

theorem stops_comma (rest : List Char) : Stops (',' :: rest) := by
  rintro _ ⟨⟩
  exact .inl rfl

theorem stops_newLine (level : Nat) (rest : List Char) : Stops (newLine level ++ rest) := by
  rintro _ ⟨⟩
  exact .inr rfl

theorem prettyItems_cons (level : Nat) (item : Json) (others : List Json) :
    prettyItems level true (item :: others) =
      newLine level ++ (prettyChars level item ++ prettyItems level false others) := by
  rw [prettyItems, if_pos rfl, List.nil_append, List.append_assoc]

theorem prettyItems_later (level : Nat) (item : Json) (others : List Json) :
    prettyItems level false (item :: others) = ',' :: prettyItems level true (item :: others) :=
  rfl

theorem readItems_step {level fuel : Nat} {item : Json}
    (reads : ReadsAs (prettyChars level item) item)
    (enough : (prettyChars level item).length < fuel) (read : List Json)
    {behind later : List Char} (stops : Stops behind) :
    let items := readItems (fuel + 1) read (newLine level ++ (prettyChars level item ++ behind))
    (skipBlanks behind = ',' :: later → items = readItems fuel (item :: read) later) ∧
      (skipBlanks behind = ']' :: later → items = some (.array (item :: read).reverse, later)) := by
  constructor
  all_goals
    intro found
    rw [readItems, readValue_append isBlank_of_mem_newLine, reads fuel behind enough stops]
    simp only [found]

/-- The items of an array are read one by one, up to its end. -/
theorem readItems_prettyItems {level fuel : Nat} (outer : Nat) {item : Json} {others : List Json}
    (each : ∀ value ∈ item :: others, ReadsAs (prettyChars level value) value)
    (enough : (prettyItems level true (item :: others)).length < fuel) (read : List Json)
    (rest : List Char) :
    readItems fuel read
        (prettyItems level true (item :: others) ++ (newLine outer ++ ']' :: rest)) =
      some (array (read.reverse ++ item :: others), rest) := by
  induction others generalizing item fuel read with
  | nil =>
      obtain ⟨fuel, rfl⟩ := Nat.exists_eq_succ_of_ne_zero (Nat.ne_zero_of_lt enough)
      rw [prettyItems_cons] at enough ⊢
      simp only [List.length_append, newLine, List.length_cons] at enough
      have last := (readItems_step (each item (by simp))
        (by omega : (prettyChars level item).length < fuel) read
        (stops_newLine outer (']' :: rest))).2 (skipBlanks_newLine outer (']' :: rest))
      rw [prettyItems, List.append_nil, List.append_assoc, last, List.reverse_cons]
  | cons next others ih =>
      obtain ⟨fuel, rfl⟩ := Nat.exists_eq_succ_of_ne_zero (Nat.ne_zero_of_lt enough)
      rw [prettyItems_cons, prettyItems_later] at enough ⊢
      simp only [List.length_append, newLine, List.length_cons] at enough
      have more := (readItems_step (each item (by simp))
        (by omega : (prettyChars level item).length < fuel) read (stops_comma
          (prettyItems level true (next :: others) ++ (newLine outer ++ ']' :: rest)))).1 rfl
      have later := ih (fun value member => each value (List.mem_cons_of_mem _ member))
        (by omega : (prettyItems level true (next :: others)).length < fuel) (item :: read)
      rw [List.append_assoc, List.append_assoc, List.cons_append, more, later, List.reverse_cons,
        List.append_assoc, List.singleton_append]

theorem putMember_of_new {members : List (String × Json)} {key : String}
    (new : key ∉ members.map Prod.fst) (value : Json) :
    putMember members key value = members ++ [(key, value)] := by
  have absent : ¬members.any (·.1 == key) = true := by
    rw [List.any_eq_true]
    rintro ⟨member, isMember, same⟩
    exact new (List.mem_map.mpr ⟨member, isMember, eq_of_beq same⟩)
  rw [putMember, if_neg absent]

theorem prettyMembers_cons (level : Nat) (key : String) (value : Json)
    (others : List (String × Json)) :
    prettyMembers level true ((key, value) :: others) =
      newLine level ++ (quoteChars key ++ ':' :: ' ' ::
        (prettyChars level value ++ prettyMembers level false others)) := by
  rw [prettyMembers, if_pos rfl, List.nil_append, List.append_assoc]

theorem prettyMembers_later (level : Nat) (member : String × Json)
    (others : List (String × Json)) :
    prettyMembers level false (member :: others) =
      ',' :: prettyMembers level true (member :: others) :=
  rfl

theorem readMembers_step {level fuel : Nat} (key : String) {value : Json}
    (reads : ReadsAs (prettyChars level value) value)
    (enough : (prettyChars level value).length < fuel) (read : List (String × Json))
    {behind later : List Char} (stops : Stops behind) :
    let members := readMembers (fuel + 1) read
      (newLine level ++ (quoteChars key ++ ':' :: ' ' :: (prettyChars level value ++ behind)))
    (skipBlanks behind = ',' :: later →
      members = readMembers fuel (putMember read key value) later) ∧
      (skipBlanks behind = '\x7d' :: later →
        members = some (.object (putMember read key value), later)) := by
  have valueRead : readValue fuel (' ' :: (prettyChars level value ++ behind)) =
      some (value, behind) := by
    rw [← List.singleton_append, readValue_append (by simp [isBlank]),
      reads fuel behind enough stops]
  constructor
  all_goals
    intro found
    rw [readMembers, skipBlanks_newLine, quoteChars_append, skipBlanks_cons (by decide)]
    simp only [readString_quoted rfl, skipBlanks_cons (show isBlank ':' = false by decide),
      valueRead, found]

/-- The members of an object are read one by one, up to its end, each behind those before it. -/
theorem readMembers_prettyMembers {level fuel : Nat} (outer : Nat) {member : String × Json}
    {read others : List (String × Json)}
    (each : ∀ named ∈ member :: others, ReadsAs (prettyChars level named.2) named.2)
    (enough : (prettyMembers level true (member :: others)).length < fuel)
    (distinct : ((read ++ member :: others).map Prod.fst).Nodup) (rest : List Char) :
    readMembers fuel read
        (prettyMembers level true (member :: others) ++ (newLine outer ++ '\x7d' :: rest)) =
      some (object (read ++ member :: others), rest) := by
  -- The members that were read before grow by one with each step, so they are general here.
  induction others generalizing member fuel read with
  | nil =>
      obtain ⟨fuel, rfl⟩ := Nat.exists_eq_succ_of_ne_zero (Nat.ne_zero_of_lt enough)
      obtain ⟨key, value⟩ := member
      rw [prettyMembers_cons] at enough ⊢
      simp only [List.length_append, newLine, List.length_cons] at enough
      have last := (readMembers_step key (each (key, value) (by simp))
        (by omega : (prettyChars level value).length < fuel) read
        (stops_newLine outer ('\x7d' :: rest))).2 (skipBlanks_newLine outer ('\x7d' :: rest))
      simp only [prettyMembers, List.append_nil, List.append_assoc, List.cons_append]
      rw [last, putMember_of_new (Config.notMem_of_nodup_append distinct)]
  | cons next others ih =>
      obtain ⟨fuel, rfl⟩ := Nat.exists_eq_succ_of_ne_zero (Nat.ne_zero_of_lt enough)
      obtain ⟨key, value⟩ := member
      rw [prettyMembers_cons, prettyMembers_later] at enough ⊢
      simp only [List.length_append, newLine, List.length_cons] at enough
      have more := (readMembers_step key (each (key, value) (by simp))
        (by omega : (prettyChars level value).length < fuel) read (stops_comma
          (prettyMembers level true (next :: others) ++ (newLine outer ++ '\x7d' :: rest)))).1 rfl
      have later := ih (fun named isMember => each named (List.mem_cons_of_mem _ isMember))
        (by omega : (prettyMembers level true (next :: others)).length < fuel)
        (by simpa using distinct : ((read ++ [(key, value)] ++ next :: others).map Prod.fst).Nodup)
      simp only [List.append_assoc, List.cons_append]
      rw [more, putMember_of_new (Config.notMem_of_nodup_append distinct), later,
        List.append_assoc, List.singleton_append]

/-- A printed value starts with a character that is neither blank nor the end of an array. -/
theorem exists_prettyChars_eq (level : Nat) {value : Json} (readable : value.IsReadable) :
    ∃ first more, prettyChars level value = first :: more ∧ isBlank first = false ∧
      first ≠ ']' := by
  cases readable with
  | null => exact ⟨_, _, rfl, by decide, by decide⟩
  | bool value => cases value <;> exact ⟨_, _, rfl, by decide, by decide⟩
  | text value => exact ⟨_, _, rfl, by decide, by decide⟩
  | @whole value low high =>
      rw [show prettyChars level (whole value) = (toString value).toList from rfl,
        Int.toString_eq_repr, Int.repr_eq_if]
      split
      · obtain ⟨digit, digits, written, isDigit⟩ := exists_toDigits_eq value.toNat
        rw [Nat.toList_repr, written]
        exact ⟨digit, digits, rfl, isBlank_of_isDigit isDigit,
          ne_of_isDigit isDigit ']' (by decide)⟩
      · rw [String.toList_append]
        exact ⟨'-', _, rfl, by decide, by decide⟩
  | @array items each => cases items <;> exact ⟨_, _, rfl, by decide, by decide⟩
  | @object members distinct each => cases members <;> exact ⟨_, _, rfl, by decide, by decide⟩

theorem readValue_bracket {fuel level : Nat} {first : Char} {more : List Char}
    (notBlank : isBlank first = false) (notEnd : first ≠ ']') :
    readValue (fuel + 1) ('[' :: (newLine level ++ first :: more)) =
      readItems fuel [] (newLine level ++ first :: more) := by
  rw [readValue, skipBlanks_cons (by decide)]
  simp only [skipBlanks_newLine, skipBlanks_cons notBlank]
  split
  next same => exact absurd (List.cons.inj same).1 notEnd
  next => rfl

theorem readsAs_array {level : Nat} {items : List Json}
    (readable : ∀ item ∈ items, item.IsReadable)
    (each : ∀ item ∈ items, ReadsAs (prettyChars (level + 1) item) item) :
    ReadsAs (prettyChars level (array items)) (array items) := by
  refine .of_succ fun fuel rest enough _ => ?_
  cases items with
  | nil => simp [prettyChars, readValue, skipBlanks_cons, isBlank]
  | cons item others =>
      obtain ⟨first, more, written, notBlank, notEnd⟩ :=
        exists_prettyChars_eq (level + 1) (readable item (by simp))
      rw [prettyChars, List.length_cons, List.length_append, List.length_append] at enough
      have read := readItems_prettyItems level each
        (by omega : (prettyItems (level + 1) true (item :: others)).length < fuel) [] rest
      have opened := @readValue_bracket fuel (level + 1) first
        (more ++ (prettyItems (level + 1) false others ++ (newLine level ++ ']' :: rest)))
        notBlank notEnd
      rw [prettyItems_cons, written] at read
      simp only [List.append_assoc, List.cons_append, List.reverse_nil, List.nil_append] at read
      rw [prettyChars, prettyItems_cons, written]
      simp only [List.append_assoc, List.cons_append, List.nil_append]
      rw [opened, read]

theorem readValue_brace (fuel level : Nat) (more : List Char) :
    readValue (fuel + 1) ('\x7b' :: (newLine level ++ '"' :: more)) =
      readMembers fuel [] (newLine level ++ '"' :: more) := by
  rw [readValue, skipBlanks_cons (by decide)]
  simp only [skipBlanks_newLine, skipBlanks_cons (show isBlank '"' = false by decide)]
  rfl

theorem readsAs_object {level : Nat} {members : List (String × Json)}
    (distinct : (members.map Prod.fst).Nodup)
    (each : ∀ member ∈ members, ReadsAs (prettyChars (level + 1) member.2) member.2) :
    ReadsAs (prettyChars level (object members)) (object members) := by
  refine .of_succ fun fuel rest enough _ => ?_
  cases members with
  | nil => simp [prettyChars, readValue, skipBlanks_cons, isBlank]
  | cons member others =>
      obtain ⟨key, value⟩ := member
      rw [prettyChars, List.length_cons, List.length_append, List.length_append] at enough
      have read := readMembers_prettyMembers level each
        (by omega : (prettyMembers (level + 1) true ((key, value) :: others)).length < fuel)
        (by simpa using distinct : (([] ++ (key, value) :: others).map Prod.fst).Nodup) rest
      have opened := readValue_brace fuel (level + 1)
      rw [prettyMembers_cons, quoteChars] at read
      rw [prettyChars, prettyMembers_cons, quoteChars]
      simp only [List.append_assoc, List.cons_append, List.nil_append] at read ⊢
      rw [opened, read]

theorem readsAs_pretty {value : Json} (readable : value.IsReadable) (level : Nat) :
    ReadsAs (prettyChars level value) value := by
  induction readable generalizing level with
  | null => exact readsAs_null
  | bool value => exact readsAs_bool value
  | whole low high => exact readsAs_whole low high
  | text value => exact readsAs_text value
  | array each ih => exact readsAs_array each fun item member => ih item member (level + 1)
  | object distinct each ih =>
      exact readsAs_object distinct fun member isMember => ih member isMember (level + 1)

/-- A value that is printed over several lines is read back from its text. -/
theorem parse?_pretty {value : Json} (readable : value.IsReadable) :
    parse? value.pretty = some value := by
  have read := readsAs_pretty readable 0 ((prettyChars 0 value).length + 1) [] (by omega)
    (by simp [Stops])
  rw [List.append_nil] at read
  rw [parse?, pretty, String.toList_ofList]
  simp [read, skipBlanks]

end QueryFoundry.Json
