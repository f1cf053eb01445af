import QueryFoundry.Proofs.BridgeReading
import QueryFoundry.Proofs.JsonReading

/-!
# The constant that a module fetches

What the fetch operation of a bridge returns where its shape names a constant. The constant is
written with a sign and digits, but the sign is an operator of the language that the bridge is
written in: the digits alone are the literal, and the operator is applied to what they denote. This
comes to the constant again for each number but the least one, whose digits denote a number that is
too great for the type.
-/

namespace QueryFoundry

/-! ## Literals of the type `long` -/

/-- Decimal digits without a redundant zero in front. -/
def IsPlainDecimal (digits : List Char) : Prop :=
  digits ≠ [] ∧ (∀ digit ∈ digits, digit.isDigit = true) ∧
    (digits.head? = some '0' → digits = ['0'])

instance : DecidablePred IsPlainDecimal := fun digits =>
  inferInstanceAs (Decidable (digits ≠ [] ∧ (∀ digit ∈ digits, digit.isDigit = true) ∧
    (digits.head? = some '0' → digits = ['0'])))

/-- The value of a literal of the type `long`, which has 64 bits: decimal digits and the letter of
the type. There is none if the number is too great for the type. -/
def longLiteral? (text : List Char) : Option Int64 :=
  let digits := text.dropLast
  let number := Nat.ofDigitChars 10 digits 0
  if text.getLast? = some 'L' ∧ IsPlainDecimal digits ∧ number < 2 ^ 63 then
    some (Int64.ofNat number)
  else none

/-- What the minus operator makes of a value of the type `long`. It overflows at the least one. -/
def negated? (value : Int64) : Option Int64 :=
  if value = Int64.minValue then none else some (-value)

/-- The value of a literal, or of the minus operator in front of one. -/
def longExpression? (text : String) : Option Int64 :=
  match text.toList with
  | '-' :: literal => (longLiteral? literal).bind negated?
  | literal => longLiteral? literal

theorem longExpression?_minus {text : String} {literal : List Char}
    (written : text.toList = '-' :: literal) :
    longExpression? text = (longLiteral? literal).bind negated? := by
  simp only [longExpression?, written]

theorem longExpression?_digit {text : String} {first : Char} {rest : List Char}
    (written : text.toList = first :: rest) (isDigit : first.isDigit = true) :
    longExpression? text = longLiteral? (first :: rest) := by
  rw [longExpression?, written]
  split
  · rename_i literal starts
    obtain ⟨rfl, -⟩ := List.cons.inj starts
    exact absurd isDigit (by decide)
  · rfl

theorem isPlainDecimal_toDigits (number : Nat) : IsPlainDecimal (Nat.toDigits 10 number) := by
  refine ⟨Nat.toDigits_ne_nil, fun digit member => ?_, fun first => ?_⟩
  · exact Nat.isDigit_of_mem_toDigits (by decide) (by decide) member
  · rw [Json.eq_zero_of_head?_toDigits first]
    rfl

theorem longLiteral?_toDigits (number : Nat) :
    longLiteral? (Nat.toDigits 10 number ++ ['L']) =
      if number < 2 ^ 63 then some (Int64.ofNat number) else none := by
  have denoted : Nat.ofDigitChars 10 (Nat.toDigits 10 number) 0 = number :=
    Nat.ofDigitChars_toDigits (by decide) (by decide)
  simp only [longLiteral?, List.getLast?_concat, List.dropLast_concat, denoted, true_and,
    isPlainDecimal_toDigits]

namespace QueryShape

def signOf (value : Int64) : List Char :=
  if value.toInt < 0 then ['-'] else []

/-- A constant is written as a sign, the digits of its absolute value and the letter of the type. -/
theorem toList_placeholderExpression (value : Int64) :
    (placeholderExpression value).toList =
      signOf value ++ (Nat.toDigits 10 value.toInt.natAbs ++ ['L']) := by
  rw [placeholderExpression, String.toList_append, Int.toString_eq_repr, Int.repr_eq_if, signOf]
  by_cases negative : value.toInt < 0
  · have magnitude : (-value.toInt).toNat = value.toInt.natAbs := by omega
    rw [if_neg (by omega), if_pos negative, magnitude, String.toList_append, Nat.toList_repr,
      List.append_assoc]
    rfl
  · have magnitude : value.toInt.toNat = value.toInt.natAbs := by omega
    rw [if_pos (by omega), if_neg negative, magnitude, Nat.toList_repr]
    rfl

theorem eq_minValue_iff (value : Int64) :
    value = Int64.minValue ↔ ¬value.toInt.natAbs < 2 ^ 63 := by
  have low := value.le_toInt
  have high := value.toInt_lt
  rw [← Int64.toInt_inj, Int64.toInt_minValue]
  omega

/-- The literal that the digits of a constant make fits into the type, with this exception. -/
theorem isSome_longLiteral?_iff (value : Int64) :
    (longLiteral? (Nat.toDigits 10 value.toInt.natAbs ++ ['L'])).isSome ↔
      value ≠ Int64.minValue := by
  rw [longLiteral?_toDigits, ne_eq, eq_minValue_iff, not_not]
  split
  · rename_i small
    exact iff_of_true rfl small
  · rename_i great
    exact iff_of_false Bool.false_ne_true great

theorem longExpression?_of_natural {value : Int64} (natural : 0 ≤ value.toInt) :
    longExpression? (placeholderExpression value) = some value := by
  have small : value.toInt.natAbs < 2 ^ 63 := by
    have bound := value.toInt_lt
    omega
  have again : Int64.ofNat value.toInt.natAbs = value := by
    rw [← Int64.toInt_inj, Int64.toInt_ofNat_of_lt small]
    omega
  have digits : (placeholderExpression value).toList =
      Nat.toDigits 10 value.toInt.natAbs ++ ['L'] := by
    rw [toList_placeholderExpression, signOf, if_neg (by omega), List.nil_append]
  obtain ⟨first, rest, starts⟩ : ∃ first rest, Nat.toDigits 10 value.toInt.natAbs = first :: rest :=
    List.exists_cons_of_ne_nil Nat.toDigits_ne_nil
  have isDigit : first.isDigit = true :=
    Nat.isDigit_of_mem_toDigits (by decide) (by decide) (starts ▸ List.mem_cons_self)
  rw [starts, List.cons_append] at digits
  rw [longExpression?_digit digits isDigit, ← List.cons_append, ← starts, longLiteral?_toDigits,
    if_pos small, again]

theorem longExpression?_of_negative {value : Int64} (negative : value.toInt < 0) :
    longExpression? (placeholderExpression value) =
      if value = Int64.minValue then none else some value := by
  have signed : (placeholderExpression value).toList =
      '-' :: (Nat.toDigits 10 value.toInt.natAbs ++ ['L']) := by
    rw [toList_placeholderExpression, signOf, if_pos negative, List.singleton_append]
  rw [longExpression?_minus signed, longLiteral?_toDigits]
  by_cases small : value.toInt.natAbs < 2 ^ 63
  · have kept : Int64.ofNat value.toInt.natAbs ≠ Int64.minValue := by
      rw [ne_eq, ← Int64.toInt_inj, Int64.toInt_ofNat_of_lt small, Int64.toInt_minValue]
      omega
    have again : -Int64.ofNat value.toInt.natAbs = value := by
      rw [← Int64.toInt_inj, Int64.toInt_neg_ofNat_of_le (Nat.le_of_lt small)]
      omega
    rw [if_pos small, Option.bind_some, negated?, if_neg kept, again,
      if_neg (fun same => (eq_minValue_iff value).mp same small)]
  · rw [if_neg small, Option.bind_none, if_pos ((eq_minValue_iff value).mpr small)]

/-- What a constant is written as comes to the constant again, unless this is the least number. -/
theorem longExpression?_placeholderExpression (value : Int64) :
    longExpression? (placeholderExpression value) =
      if value = Int64.minValue then none else some value := by
  by_cases negative : value.toInt < 0
  · exact longExpression?_of_negative negative
  · have other : value ≠ Int64.minValue := by
      rintro rfl
      exact negative Int64.toInt_minValue_lt_zero
    rw [if_neg other, longExpression?_of_natural (Int.not_lt.mp negative)]

/-! ## The fetch operation -/

/-- What the line starts with that the fetch operation of a bridge begins on. -/
def fetchStart : String := "long fetch_data("

/-- A fetch operation that does not look at the result of the query and returns an expression. -/
def fetchOperation (expression : String) : List String :=
  [fetchLine, "  (void)handle;", "  return " ++ expression ++ ";", "\x7d"]

/-- The expression of a statement that returns one. -/
def returned? (statement : String) : Option String :=
  let keyword := "  return ".toList
  let rest := statement.toList.drop keyword.length
  if keyword.isPrefixOf statement.toList ∧ rest.getLast? = some ';' then
    some (String.ofList rest.dropLast)
  else none

/-- The value that the fetch operation in a text returns, if this is a constant that has one. -/
def fetchedConstant? (text : String) : Option Int64 :=
  match (linesOf text).dropWhile (· != fetchLine) with
  | _ :: "  (void)handle;" :: statement :: "\x7d" :: _ =>
      (returned? statement).bind longExpression?
  | _ => none

theorem returned?_append (expression : String) :
    returned? ("  return " ++ expression ++ ";") = some expression := by
  have written : ("  return " ++ expression ++ ";").toList =
      "  return ".toList ++ (expression.toList ++ [';']) := by
    rw [String.toList_append, String.toList_append, List.append_assoc]
    rfl
  have begins : "  return ".toList.isPrefixOf
      ("  return ".toList ++ (expression.toList ++ [';'])) = true :=
    List.isPrefixOf_iff_prefix.mpr (List.prefix_append ..)
  simp only [returned?, written, List.drop_left, begins, List.getLast?_concat,
    List.dropLast_concat, and_self, if_true, String.ofList_toList]

def linesBehindFetch (name : String) : List String :=
  releaseLines.tail ++ [initLine name]

theorem lines_placeholder (shape : QueryShape) (name : String) (value : Int64) :
    lines { shape with fetch := .placeholder value } name = linesBeforeFetch shape name ++
      (fetchOperation (placeholderExpression value) ++ linesBehindFetch name) := by
  have headed : headLines { shape with fetch := .placeholder value } name ++
      middleLines { shape with fetch := .placeholder value } =
      linesBeforeFetch shape name ++ [fetchLine] :=
    headLines_append_middleLines shape name
  rw [lines_eq, ← List.append_assoc, headed]
  simp only [fetchBody, fetchOperation, releaseLines, linesBehindFetch, List.append_assoc,
    List.cons_append, List.nil_append, List.tail_cons]

theorem not_fetchStart_prefix (shape : QueryShape) (name : String) :
    ∀ line ∈ linesBeforeFetch shape name ++ linesBehindFetch name,
      ¬fetchStart.toList <+: line.toList := by
  have before : ∀ line ∈ linesBeforeFetch shape name, ¬fetchStart.toList <+: line.toList :=
    shape.not_prefix_of_mem_linesBeforeFetch name (by decide +kernel) (by decide +kernel)
  have released : ∀ line ∈ releaseLines.tail, ¬fetchStart.toList <+: line.toList := by
    decide +kernel
  have defined : ¬fetchStart.toList <+: (initLine name).toList := by
    unfold initLine
    rw [String.append_assoc, String.toList_append]
    exact not_prefix_append (by decide +kernel) (by decide +kernel) _
  simp only [linesBehindFetch, List.forall_mem_append, List.forall_mem_singleton]
  exact ⟨before, released, defined⟩

theorem fetchedConstant?_render {shape : QueryShape} {name : String}
    (typed : IsLine shape.queryType) (named : IsLine name) (value : Int64) :
    fetchedConstant? (render { shape with fetch := .placeholder value } name) =
      longExpression? (placeholderExpression value) := by
  have oneLine : IsOneLine { shape with fetch := .placeholder value } := ⟨typed, by simp⟩
  have read : linesOf (render { shape with fetch := .placeholder value } name) =
      linesBeforeFetch shape name ++
        (fetchOperation (placeholderExpression value) ++ linesBehindFetch name) := by
    rw [← lines_placeholder]
    exact linesOf_ended (isLine_of_mem_lines oneLine named)
  have others : ∀ line ∈ linesBeforeFetch shape name, (line != fetchLine) = true := by
    intro line member
    refine bne_iff_ne.mpr ?_
    rintro rfl
    exact not_fetchStart_prefix shape name fetchLine (List.mem_append_left _ member)
      (by decide +kernel)
  have found : (linesOf (render { shape with fetch := .placeholder value } name)).dropWhile
      (· != fetchLine) = fetchOperation (placeholderExpression value) ++ linesBehindFetch name := by
    rw [read, List.dropWhile_append_of_pos others]
    rfl
  rw [fetchedConstant?, found]
  exact congrArg (·.bind longExpression?) (returned?_append (placeholderExpression value))

/-- The fetch operation of a bridge stands at one place in it and returns the expression for the
constant, and no more of the bridge depends on the constant. The expression is a sign, where the
constant is negative, and a literal of its absolute value without a redundant zero. The literal fits
into the type and the expression comes to the constant, so that it is read back from the bridge,
unless the constant is the least number of the type; there the literal is too great by one. -/
theorem render_fetches_constant (shape : QueryShape) (name : String) :
    (∃ before behind : List String,
      (∀ line ∈ before ++ behind, ¬fetchStart.toList <+: line.toList) ∧
      ∀ value, render { shape with fetch := .placeholder value } name =
        ended (before ++ (fetchOperation (placeholderExpression value) ++ behind))) ∧
    ∀ value : Int64,
      (∃ digits, (placeholderExpression value).toList = signOf value ++ (digits ++ ['L']) ∧
        IsPlainDecimal digits ∧ Nat.ofDigitChars 10 digits 0 = value.toInt.natAbs ∧
        ((longLiteral? (digits ++ ['L'])).isSome ↔ value ≠ Int64.minValue)) ∧
      longExpression? (placeholderExpression value) =
        (if value = Int64.minValue then none else some value) ∧
      (IsLine shape.queryType → IsLine name →
        fetchedConstant? (render { shape with fetch := .placeholder value } name) =
          if value = Int64.minValue then none else some value) := by
  have value_eq := longExpression?_placeholderExpression
  refine ⟨⟨linesBeforeFetch shape name, linesBehindFetch name, not_fetchStart_prefix shape name,
    fun value => ?_⟩, fun value => ⟨⟨Nat.toDigits 10 value.toInt.natAbs,
      toList_placeholderExpression value, isPlainDecimal_toDigits _, ?_, ?_⟩, value_eq value,
      fun typed named => ?_⟩⟩
  · rw [← lines_placeholder]
    rfl
  · exact Nat.ofDigitChars_toDigits (by decide) (by decide)
  · exact isSome_longLiteral?_iff value
  · rw [fetchedConstant?_render typed named, value_eq]

/-- The constant next to the least one is read back. -/
theorem render_fetches_constant_lowest :
    fetchedConstant? (render { fetch := .placeholder (Int64.minValue + 1) } "t1") =
      some (-9223372036854775807) := by
  obtain ⟨-, -, fetched⟩ := (render_fetches_constant {} "t1").2 (Int64.minValue + 1)
  exact fetched (by decide) (by decide)

/-- The digits of the least constant are no literal of the type, and it is not read back. -/
theorem not_fetched_least :
    placeholderExpression Int64.minValue = "-9223372036854775808L" ∧
      longLiteral? "9223372036854775808L".toList = none ∧
      ¬∀ value : Int64,
        fetchedConstant? (render { fetch := .placeholder value } "t1") = some value := by
  have digits : "9223372036854775808L".toList = Nat.toDigits 10 9223372036854775808 ++ ['L'] := by
    decide +kernel
  have tooGreat : longLiteral? "9223372036854775808L".toList = none := by
    rw [digits, longLiteral?_toDigits, if_neg (by omega)]
  refine ⟨by decide +kernel, tooGreat, fun fetched => ?_⟩
  have typed : IsLine (queryType {}) := by decide
  have unread : fetchedConstant? (render { fetch := .placeholder Int64.minValue } "t1") = none :=
    (fetchedConstant?_render typed (by decide) Int64.minValue).trans
      ((longExpression?_placeholderExpression Int64.minValue).trans (if_pos rfl))
  cases unread.symm.trans (fetched Int64.minValue)

end QueryShape

end QueryFoundry
