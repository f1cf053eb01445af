import QueryFoundry.Template.QueryShape
import Mathlib.Data.List.Basic
import Std.Data.String.ToInt

/-!
# Reading a bridge back

A bridge determines the module and the query shape that it was made for. Its text falls into lines
again, because nothing that is put into a line ends it. The lines that depend on the module or on
the shape are the same in two bridges only if what was put into them is the same: the type is cut at
its last opening bracket and its arguments at the commas, neither of which is part of the name of an
element type.
-/

namespace QueryFoundry

/-- A text that stands on one line. -/
def IsLine (text : String) : Prop := '\n' ∉ text.toList

instance : DecidablePred IsLine := fun text => inferInstanceAs (Decidable ('\n' ∉ text.toList))

theorem isLine_ofList {characters : List Char} (unbroken : '\n' ∉ characters) :
    IsLine (String.ofList characters) := by
  rwa [IsLine, String.toList_ofList]

theorem isLine_append_iff {first second : String} :
    IsLine (first ++ second) ↔ IsLine first ∧ IsLine second := by
  simp [IsLine, String.toList_append]

theorem not_mem_natRepr {mark : Char} (notDigit : mark.isDigit = false) (number : Nat) :
    mark ∉ number.repr.toList := by
  rw [Nat.toList_repr]
  intro inDigits
  have isDigit := Nat.isDigit_of_mem_toDigits (by decide) (by decide) inDigits
  exact Bool.false_ne_true (notDigit.symm.trans isDigit)

theorem isLine_natRepr (number : Nat) : IsLine number.repr :=
  not_mem_natRepr (by decide) number

section

variable {α : Type} {mark : α} {first second firstRest secondRest : List α}

/-- Two lists that reach a mark they have not held before are cut there into the same parts. -/
theorem eq_of_append_mark_eq (inFirst : mark ∉ first) (inSecond : mark ∉ second)
    (same : first ++ mark :: firstRest = second ++ mark :: secondRest) :
    first = second ∧ firstRest = secondRest := by
  rcases List.append_eq_append_iff.mp same with ⟨between, longer, rest⟩ | ⟨between, longer, rest⟩
  all_goals
    cases between with
    | nil => simp_all
    | cons head tail => simp_all

/-- Two lists that hold a mark for the last time are cut there into the same parts. -/
theorem eq_of_append_last_mark_eq (inFirst : mark ∉ firstRest) (inSecond : mark ∉ secondRest)
    (same : first ++ mark :: firstRest = second ++ mark :: secondRest) :
    first = second ∧ firstRest = secondRest := by
  have reversed := congrArg List.reverse same
  simp only [List.reverse_append, List.reverse_cons, List.append_assoc, List.singleton_append]
    at reversed
  obtain ⟨rests, starts⟩ := eq_of_append_mark_eq (by simpa using inFirst) (by simpa using inSecond)
    reversed
  exact ⟨List.reverse_inj.mp starts, List.reverse_inj.mp rests⟩

end

/-- A text does not start with a word if something in front of it neither does nor is what the word
starts with. -/
theorem not_prefix_append {α : Type} {word start : List α} (shorter : ¬word <+: start)
    (differs : ¬start <+: word) (rest : List α) : ¬word <+: start ++ rest := by
  intro starts
  rcases List.prefix_or_prefix_of_prefix starts (List.prefix_append start rest) with begins | ends
  · exact shorter begins
  · exact differs ends

/-- Lines that are each ended by a line feed, as one text. -/
def ended (lines : List String) : String :=
  String.join (lines.map (· ++ "\n"))

theorem ended_cons (line : String) (rest : List String) :
    ended (line :: rest) = line ++ "\n" ++ ended rest :=
  String.join_cons

theorem ended_append (lines others : List String) :
    ended (lines ++ others) = ended lines ++ ended others := by
  induction lines with
  | nil => exact String.empty_append.symm
  | cons line rest ih =>
      rw [List.cons_append, ended_cons, ended_cons, ih, ← String.append_assoc]

/-- The lines of a text: what is between its line feeds, and what is behind the last one unless
there is nothing. -/
def linesOf (text : String) : List String :=
  let pieces := text.toList.splitOn '\n'
  (if pieces.getLast? = some [] then pieces.dropLast else pieces).map String.ofList

theorem splitOn_ended {lines : List String} (unbroken : ∀ line ∈ lines, IsLine line) :
    (ended lines).toList.splitOn '\n' = lines.map String.toList ++ [[]] := by
  induction lines with
  | nil => rfl
  | cons line rest ih =>
      rw [List.forall_mem_cons] at unbroken
      have characters : (ended (line :: rest)).toList =
          line.toList ++ '\n' :: (ended rest).toList := by
        rw [ended_cons, String.toList_append, String.toList_append, List.append_assoc]
        rfl
      rw [characters, List.splitOn_append_cons_self_of_not_mem unbroken.1, ih unbroken.2]
      rfl

theorem linesOf_ended {lines : List String} (unbroken : ∀ line ∈ lines, IsLine line) :
    linesOf (ended lines) = lines := by
  simp [linesOf, splitOn_ended unbroken]

/-- Lines that are each ended by a line feed can be told apart again. -/
theorem eq_of_ended_eq {first second : List String} (firstLines : ∀ line ∈ first, IsLine line)
    (secondLines : ∀ line ∈ second, IsLine line) (same : ended first = ended second) :
    first = second := by
  rw [← linesOf_ended firstLines, same, linesOf_ended secondLines]

/-- A text whose last line is not ended. -/
def IsOpen (text : String) : Prop :=
  text ≠ "" ∧ text.toList.getLast? ≠ some '\n'

instance : DecidablePred IsOpen := fun text =>
  inferInstanceAs (Decidable (text ≠ "" ∧ text.toList.getLast? ≠ some '\n'))

/-- What ends the last line of a text. -/
def closing (text : String) : String :=
  if IsOpen text then "\n" else ""

theorem getLast?_append_lineFeed (text : String) :
    (text ++ "\n").toList.getLast? = some '\n' := by
  rw [String.toList_append]
  exact List.getLast?_concat

theorem not_isOpen_append_lineFeed (text : String) : ¬IsOpen (text ++ "\n") :=
  fun isOpen => isOpen.2 (getLast?_append_lineFeed text)

theorem append_closing_of_isOpen {text : String} (isOpen : IsOpen text) :
    text ++ closing text = text ++ "\n" := by
  rw [closing, if_pos isOpen]

theorem append_closing_of_not_isOpen {text : String} (notOpen : ¬IsOpen text) :
    text ++ closing text = text := by
  rw [closing, if_neg notOpen, String.append_empty]

theorem not_isOpen_append_closing (text : String) : ¬IsOpen (text ++ closing text) := by
  by_cases isOpen : IsOpen text
  · rw [append_closing_of_isOpen isOpen]
    exact not_isOpen_append_lineFeed text
  · rwa [append_closing_of_not_isOpen isOpen]

theorem eq_empty_or_ended_of_not_isOpen {text : String} (notOpen : ¬IsOpen text) :
    text = "" ∨ text.toList.getLast? = some '\n' := by
  rwa [IsOpen, not_and_not_right, ← or_iff_not_imp_left] at notOpen

/-- Texts without a comma, at least one of them, can be told apart again when they are put one
behind the other with commas in between. -/
theorem eq_of_intercalate_eq {first second : List String} {start other : String}
    (firstPlain : ∀ text ∈ start :: first, ',' ∉ text.toList)
    (secondPlain : ∀ text ∈ other :: second, ',' ∉ text.toList)
    (same : ", ".intercalate (start :: first) = ", ".intercalate (other :: second)) :
    start :: first = other :: second := by
  induction first generalizing start other second with
  | nil =>
      cases second with
      | nil => simpa using same
      | cons next others =>
          -- One text is not the same as several, because it would hold a comma.
          rw [String.intercalate_singleton, String.intercalate_cons_cons] at same
          have inStart := firstPlain start (by simp)
          simp [same, String.toList_append] at inStart
  | cons next rest hypothesis =>
      cases second with
      | nil =>
          rw [String.intercalate_singleton, String.intercalate_cons_cons] at same
          have inOther := secondPlain other (by simp)
          simp [← same, String.toList_append] at inOther
      | cons following others =>
          rw [List.forall_mem_cons] at firstPlain secondPlain
          have sameLists := congrArg String.toList same
          simp only [String.intercalate_cons_cons, String.toList_append, List.append_assoc]
            at sameLists
          obtain ⟨heads, rests⟩ := eq_of_append_mark_eq firstPlain.1 secondPlain.1 sameLists
          rw [String.toList_inj.mp heads, hypothesis firstPlain.2 secondPlain.2
            (String.toList_inj.mp (List.cons.inj rests).2)]

theorem not_mem_intercalate {mark : Char} {texts : List String} (notComma : mark ∉ ", ".toList)
    (plain : ∀ text ∈ texts, mark ∉ text.toList) : mark ∉ (", ".intercalate texts).toList := by
  induction texts with
  | nil => simp
  | cons text rest hypothesis =>
      rw [List.forall_mem_cons] at plain
      cases rest with
      | nil => simpa using plain.1
      | cons next others =>
          rw [String.intercalate_cons_cons, String.toList_append, String.toList_append]
          simp only [List.mem_append, not_or]
          exact ⟨⟨plain.1, notComma⟩, hypothesis plain.2⟩

namespace ElementType

theorem cppName_injective : Function.Injective cppName := by
  intro first second
  cases first <;> cases second <;> simp [cppName]

theorem cppName_plain (type : ElementType) :
    ∀ mark ∈ [',', '<', '\n'], mark ∉ type.cppName.toList := by
  cases type <;> simp [cppName]

end ElementType

namespace QueryShape

/-- A shape whose free texts stand on one line. -/
structure IsOneLine (shape : QueryShape) : Prop where
  queryType : IsLine shape.queryType
  member : ∀ name, shape.fetch = .member name → IsLine name

/-- The template arguments as they stand between the brackets of the type. -/
def argumentText (shape : QueryShape) : String :=
  ", ".intercalate (shape.arguments.map ElementType.cppName)

theorem not_mem_argumentText (shape : QueryShape) :
    ∀ mark ∈ ['<', '\n'], mark ∉ shape.argumentText.toList := by
  intro mark marked
  refine not_mem_intercalate ?_ ?_
  · revert mark
    simp
  · rw [List.forall_mem_map]
    exact fun type _ => type.cppName_plain mark (List.mem_cons_of_mem _ marked)

theorem arguments_eq_iff {first second : QueryShape} : first.arguments = second.arguments ↔
    first.keys = second.keys ∧ first.annotation = second.annotation :=
  List.append_singleton_inj

/-- The arguments can be read from their text: there is at least the annotation among them. -/
theorem arguments_eq_of_argumentText_eq {first second : QueryShape}
    (same : first.argumentText = second.argumentText) : first.arguments = second.arguments := by
  have plain : ∀ types : List ElementType, ∀ text ∈ types.map ElementType.cppName,
      ',' ∉ text.toList := by
    intro types
    rw [List.forall_mem_map]
    exact fun type _ => type.cppName_plain ',' (by simp)
  have nonempty : ∀ shape : QueryShape, ∃ start rest,
      shape.arguments.map ElementType.cppName = start :: rest := by
    intro shape
    refine List.exists_cons_of_ne_nil ?_
    simp [arguments]
  obtain ⟨start, rest, named⟩ := nonempty first
  obtain ⟨other, others, otherNamed⟩ := nonempty second
  have firstPlain := plain first.arguments
  have secondPlain := plain second.arguments
  rw [argumentText, argumentText, named, otherNamed] at same
  rw [named] at firstPlain
  rw [otherNamed] at secondPlain
  have sameNames := eq_of_intercalate_eq firstPlain secondPlain same
  rw [← named, ← otherNamed] at sameNames
  exact List.map_injective_iff.mpr ElementType.cppName_injective sameNames

/-- The type determines its parts, whatever brackets the name of the class template has. -/
theorem cppType_eq_iff {first second : QueryShape} :
    first.cppType = second.cppType ↔ first.queryType = second.queryType ∧
      first.keys = second.keys ∧ first.annotation = second.annotation := by
  rw [← arguments_eq_iff]
  constructor
  · intro same
    have cut : first.queryType ++ "<" ++ first.argumentText =
        second.queryType ++ "<" ++ second.argumentText := (String.append_left_inj ">").mp same
    have sameLists := congrArg String.toList cut
    simp only [String.toList_append, List.append_assoc] at sameLists
    obtain ⟨names, arguments⟩ := eq_of_append_last_mark_eq
      (first.not_mem_argumentText '<' (by simp)) (second.not_mem_argumentText '<' (by simp))
      sameLists
    exact ⟨String.toList_inj.mp names,
      arguments_eq_of_argumentText_eq (String.toList_inj.mp arguments)⟩
  · rintro ⟨names, arguments⟩
    rw [cppType, cppType, names, arguments]

theorem isLine_cppType {shape : QueryShape} (oneLine : IsLine shape.queryType) :
    IsLine shape.cppType := by
  have arguments : IsLine shape.argumentText := shape.not_mem_argumentText '\n' (by simp)
  rw [cppType, isLine_append_iff, isLine_append_iff, isLine_append_iff]
  exact ⟨⟨⟨oneLine, by decide⟩, arguments⟩, by decide⟩

theorem placeholderExpression_injective : Function.Injective placeholderExpression := by
  intro first second same
  rw [placeholderExpression, placeholderExpression, String.append_left_inj, Int.toString_eq_repr,
    Int.toString_eq_repr, Int.repr_inj, Int64.toInt_inj] at same
  exact same

theorem fetchBody_injective : Function.Injective fetchBody := by
  intro first second same
  cases first with
  | placeholder value =>
      cases second with
      | placeholder other =>
          simp only [fetchBody, List.cons.injEq, String.append_left_inj, String.append_right_inj,
            true_and, and_true] at same
          rw [placeholderExpression_injective same]
      | member name => simp [fetchBody] at same
  | member name =>
      cases second with
      | placeholder value => simp [fetchBody] at same
      | member other =>
          simp only [fetchBody, List.cons.injEq, String.append_left_inj, String.append_right_inj,
            true_and, and_true] at same
          rw [same]

theorem length_fetchBody (fetch : FetchMode) : (fetchBody fetch).length = 2 := by
  cases fetch <;> rfl

def middleLines (shape : QueryShape) : List String :=
  tableDeclaration ++ ["", "namespace \x7b", "", "typedef " ++ shape.cppType ++ " query_t;", ""] ++
    runOperation ++ [""] ++ rowCountOperation ++ ["", "long fetch_data(void *handle) \x7b"]

def releaseLines : List String :=
  ["\x7d", "", "void release(void *handle) \x7b delete static_cast<query_t *>(handle); \x7d", "",
    tableLine, "", "\x7d // namespace", ""]

theorem lines_eq (shape : QueryShape) (name : String) : shape.lines name = shape.headLines name ++
    (shape.middleLines ++ (fetchBody shape.fetch ++ (releaseLines ++ [initLine name]))) := by
  simp only [lines, middleLines, releaseLines, List.append_assoc, List.cons_append, List.nil_append]

/-- The line that the fetch operation of a bridge begins on. -/
def fetchLine : String := "long fetch_data(void *handle) \x7b"

/-- The lines of a bridge in front of the fetch operation. -/
def linesBeforeFetch (shape : QueryShape) (name : String) : List String :=
  headLines shape name ++ (tableDeclaration ++
    ["", "namespace \x7b", "", "typedef " ++ shape.cppType ++ " query_t;", ""] ++
    runOperation ++ [""] ++ rowCountOperation ++ [""])

theorem headLines_append_middleLines (shape : QueryShape) (name : String) :
    shape.headLines name ++ shape.middleLines = shape.linesBeforeFetch name ++ [fetchLine] := by
  simp only [middleLines, linesBeforeFetch, fetchLine, List.append_assoc, List.cons_append,
    List.nil_append]

/-- The lines in front of the fetch operation that are the same in every bridge. -/
def fixedLines : List String :=
  ["", "// Generated by querygen. Do not edit.", "#include <stdint.h>",
    "#include \"querywrapper.hpp\"", "namespace \x7b"] ++
    tableDeclaration ++ runOperation ++ rowCountOperation

/-- What the other lines in front of the fetch operation start with. -/
def namingStarts : List String := ["// Bridge for module ", "typedef "]

/-- No line in front of the fetch operation starts with a word that starts none of the fixed lines
and that stands neither at the beginning of the other lines nor across it. -/
theorem not_prefix_of_mem_linesBeforeFetch (shape : QueryShape) (name : String) {word : String}
    (fixed : ∀ line ∈ fixedLines, ¬word.toList <+: line.toList)
    (naming : ∀ start ∈ namingStarts,
      ¬word.toList <+: start.toList ∧ ¬start.toList <+: word.toList) :
    ∀ line ∈ shape.linesBeforeFetch name, ¬word.toList <+: line.toList := by
  have begun {start : String} (member : start ∈ namingStarts) (rest : String) :
      ¬word.toList <+: (start ++ rest).toList := by
    rw [String.toList_append]
    exact not_prefix_append (naming start member).1 (naming start member).2 _
  have comment : ¬word.toList <+:
      ("// Bridge for module " ++ name ++ ": " ++ shape.cppType).toList := by
    rw [String.append_assoc, String.append_assoc]
    exact begun (by simp [namingStarts]) _
  have aliased : ¬word.toList <+: ("typedef " ++ shape.cppType ++ " query_t;").toList := by
    rw [String.append_assoc]
    exact begun (by simp [namingStarts]) _
  simp only [fixedLines, List.forall_mem_append, List.forall_mem_cons] at fixed
  obtain ⟨⟨⟨⟨empty, generated, integers, wrapper, opened, -⟩, declared⟩, run⟩, counted⟩ := fixed
  simp only [linesBeforeFetch, headLines, List.forall_mem_append, List.forall_mem_cons]
  exact ⟨⟨generated, comment, empty, integers, wrapper, empty, List.forall_mem_nil _⟩,
    ⟨⟨⟨⟨declared, empty, opened, empty, aliased, empty, List.forall_mem_nil _⟩, run⟩, empty,
      List.forall_mem_nil _⟩, counted⟩, empty, List.forall_mem_nil _⟩

theorem initLine_injective : Function.Injective initLine := by
  intro first second same
  unfold initLine initSymbol at same
  rwa [String.append_left_inj, String.append_right_inj, String.append_right_inj] at same

/-- Two bridges have the same lines only if the same was put into them. -/
theorem lines_eq_iff {first second : QueryShape} {name other : String} :
    first.lines name = second.lines other ↔ name = other ∧ first = second := by
  constructor
  · intro same
    rw [lines_eq, lines_eq] at same
    obtain ⟨-, same⟩ := List.append_inj same rfl
    obtain ⟨middle, same⟩ := List.append_inj same rfl
    obtain ⟨fetch, last⟩ := List.append_inj same
      ((length_fetchBody first.fetch).trans (length_fetchBody second.fetch).symm)
    have types : first.cppType = second.cppType := by
      simpa [middleLines] using middle
    have names : name = other := by
      exact initLine_injective (List.singleton_inj.mp (List.append_cancel_left last))
    obtain ⟨queryTypes, keys, annotations⟩ := cppType_eq_iff.mp types
    have fetches := fetchBody_injective fetch
    cases first
    cases second
    rw [QueryShape.mk.injEq]
    exact ⟨names, queryTypes, keys, annotations, fetches⟩
  · rintro ⟨rfl, rfl⟩
    rfl

theorem not_mem_placeholderExpression {mark : Char} (notDigit : mark.isDigit = false)
    (foreign : mark ∉ ['-', 'L']) (value : Int64) :
    mark ∉ (placeholderExpression value).toList := by
  obtain ⟨notSign, notEnding⟩ : mark ≠ '-' ∧ mark ≠ 'L' := by simpa using foreign
  have digits : mark ∉ (toString value.toInt).toList := by
    rw [Int.toString_eq_repr, Int.repr_eq_if]
    split
    · exact not_mem_natRepr notDigit _
    · rw [String.toList_append, List.mem_append, not_or]
      exact ⟨by simpa using notSign, not_mem_natRepr notDigit _⟩
  rw [placeholderExpression, String.toList_append, List.mem_append, not_or]
  exact ⟨digits, by simpa using notEnding⟩

theorem isLine_placeholderExpression (value : Int64) : IsLine (placeholderExpression value) :=
  not_mem_placeholderExpression (by decide) (by decide) value

theorem isLine_of_mem_fetchBody {fetch : FetchMode}
    (oneLine : ∀ name, fetch = .member name → IsLine name) :
    ∀ line ∈ fetchBody fetch, IsLine line := by
  cases fetch with
  | placeholder value =>
      simp only [fetchBody, List.forall_mem_cons, isLine_append_iff]
      have expression := isLine_placeholderExpression value
      exact ⟨isLine_ofList (by decide), ⟨⟨isLine_ofList (by decide), expression⟩,
        isLine_ofList (by decide)⟩, List.forall_mem_nil _⟩
  | member name =>
      simp only [fetchBody, List.forall_mem_cons, isLine_append_iff]
      exact ⟨isLine_ofList (by decide), ⟨⟨isLine_ofList (by decide), oneLine name rfl⟩,
        isLine_ofList (by decide)⟩, List.forall_mem_nil _⟩

theorem isLine_of_mem_middleLines {shape : QueryShape} (oneLine : IsLine shape.queryType) :
    ∀ line ∈ shape.middleLines, IsLine line := by
  have typed : ∀ line ∈ ["", "namespace \x7b", "", "typedef " ++ shape.cppType ++ " query_t;", ""],
      IsLine line := by
    simp only [List.forall_mem_cons, isLine_append_iff]
    exact ⟨by decide, isLine_ofList (by decide), by decide, ⟨⟨isLine_ofList (by decide),
      isLine_cppType oneLine⟩, isLine_ofList (by decide)⟩, by decide, List.forall_mem_nil _⟩
  have declared : ∀ line ∈ tableDeclaration, IsLine line := by
    simp only [tableDeclaration, List.forall_mem_cons]
    and_intros
    all_goals first | exact isLine_ofList (by decide) | exact List.forall_mem_nil _
  have run : ∀ line ∈ runOperation, IsLine line := by
    simp only [runOperation, List.forall_mem_cons]
    and_intros
    all_goals first | exact isLine_ofList (by decide) | exact List.forall_mem_nil _
  have counted : ∀ line ∈ rowCountOperation, IsLine line := by
    simp only [rowCountOperation, List.forall_mem_cons]
    and_intros
    all_goals first | exact isLine_ofList (by decide) | exact List.forall_mem_nil _
  have opened : ∀ line ∈ ["", "long fetch_data(void *handle) \x7b"], IsLine line :=
    List.forall_mem_cons.mpr ⟨by decide, List.forall_mem_singleton.mpr (isLine_ofList (by decide))⟩
  simp only [middleLines, List.forall_mem_append]
  exact ⟨⟨⟨⟨⟨declared, typed⟩, run⟩, by decide⟩, counted⟩, opened⟩

theorem isLine_of_mem_releaseLines : ∀ line ∈ releaseLines, IsLine line := by
  have table : IsLine tableLine := by
    unfold tableLine
    rw [isLine_append_iff, isLine_append_iff, Nat.toString_eq_repr]
    exact ⟨⟨isLine_ofList (by decide), isLine_natRepr _⟩, isLine_ofList (by decide)⟩
  simp only [releaseLines, List.forall_mem_cons]
  exact ⟨by decide, by decide, isLine_ofList (by decide), by decide, table, by decide,
    isLine_ofList (by decide), by decide, List.forall_mem_nil _⟩

theorem isLine_initLine {name : String} (named : IsLine name) : IsLine (initLine name) := by
  unfold initLine initSymbol
  rw [isLine_append_iff, isLine_append_iff, isLine_append_iff]
  exact ⟨⟨isLine_ofList (by decide), by decide, named⟩, isLine_ofList (by decide)⟩

/-- Nothing in a line of a bridge ends it. -/
theorem isLine_of_mem_lines {shape : QueryShape} {name : String} (oneLine : shape.IsOneLine)
    (named : IsLine name) : ∀ line ∈ shape.lines name, IsLine line := by
  have headed : ∀ line ∈ shape.headLines name, IsLine line := by
    simp only [headLines, List.forall_mem_cons, isLine_append_iff]
    exact ⟨isLine_ofList (by decide), ⟨⟨⟨isLine_ofList (by decide), named⟩, by decide⟩,
      isLine_cppType oneLine.queryType⟩, by decide, isLine_ofList (by decide),
        isLine_ofList (by decide), by decide, List.forall_mem_nil _⟩
  rw [lines_eq]
  simp only [List.forall_mem_append]
  exact ⟨headed, isLine_of_mem_middleLines oneLine.queryType,
    isLine_of_mem_fetchBody oneLine.member, isLine_of_mem_releaseLines,
    List.forall_mem_singleton.mpr (isLine_initLine named)⟩

/-- A bridge determines the module and the query shape that it was made for. -/
theorem render_eq_iff {first second : QueryShape} {name other : String} (named : IsLine name)
    (otherNamed : IsLine other) (oneLine : first.IsOneLine) (otherOneLine : second.IsOneLine) :
    first.render name = second.render other ↔ name = other ∧ first = second := by
  rw [← lines_eq_iff]
  exact ⟨eq_of_ended_eq (isLine_of_mem_lines oneLine named)
      (isLine_of_mem_lines otherOneLine otherNamed),
    fun same => by rw [render, render, same]⟩

/-- A module name can end where the query type of another bridge goes on, so that the comments at
the head are the same; the bridges still differ. -/
theorem render_ne_of_headLines_eq :
    headLines ⟨"R", [], .long, .member "rows"⟩ "m: Q<int>" =
        headLines ⟨"Q<int>: R", [], .long, .member "rows"⟩ "m" ∧
      render ⟨"R", [], .long, .member "rows"⟩ "m: Q<int>" ≠
        render ⟨"Q<int>: R", [], .long, .member "rows"⟩ "m" := by
  have member : ∀ name, FetchMode.member "rows" = .member name → IsLine name := by
    rintro _ ⟨⟩
    decide
  refine ⟨by decide, fun same => ?_⟩
  have told :=
    (render_eq_iff (by decide) (by decide) ⟨by decide, member⟩ ⟨by decide, member⟩).mp same
  exact absurd told.1 (by decide)

end QueryShape

end QueryFoundry
