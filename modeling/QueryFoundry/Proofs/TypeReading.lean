import Mathlib.Data.List.TakeWhile
import QueryFoundry.Proofs.BridgeReading

/-!
# Reading a query type back

The C++ type of a query falls into its parts again: the name of the class template stands in front
of the last opening bracket, whatever brackets it has itself, and between this bracket and the
closing one stand the arguments, divided by commas. Each of them is read as the element type that it
was written for, with any blanks around it.
-/

namespace QueryFoundry

namespace Text

/-! ## Cutting a text -/

/-- A text cut at the last place of a mark: what stands in front of the mark and what stands behind
it. -/
def cutAtLast? (mark : Char) (text : String) : Option (String × String) :=
  let backwards := text.toList.reverse
  match backwards.dropWhile (· != mark) with
  | [] => none
  | _ :: front =>
      some (String.ofList front.reverse,
        String.ofList (backwards.takeWhile (· != mark)).reverse)

theorem cutAtLast?_append {mark : Char} {behind : String} (absent : mark ∉ behind.toList)
    (front : String) :
    cutAtLast? mark (front ++ String.singleton mark ++ behind) = some (front, behind) := by
  have others : ∀ character ∈ behind.toList.reverse, (character != mark) = true := by
    intro character member
    rw [List.mem_reverse] at member
    exact bne_iff_ne.mpr fun same => absent (same ▸ member)
  have backwards : (front ++ String.singleton mark ++ behind).toList.reverse =
      behind.toList.reverse ++ mark :: front.toList.reverse := by
    simp [String.toList_append]
  have after : (behind.toList.reverse ++ mark :: front.toList.reverse).dropWhile (· != mark) =
      mark :: front.toList.reverse := by
    rw [List.dropWhile_append_of_pos others]
    simp
  have before : (behind.toList.reverse ++ mark :: front.toList.reverse).takeWhile (· != mark) =
      behind.toList.reverse := by
    rw [List.takeWhile_append_of_pos others]
    simp
  simp only [cutAtLast?, backwards, after, before, List.reverse_reverse, String.ofList_toList]

/-- The pieces of a text between the occurrences of a word; `skip` counts the characters of the
occurrence last found that are still to be passed over. -/
def piecesFrom (word : List Char) : Nat → List Char → List (List Char)
  | _, [] => [[]]
  | skip + 1, _ :: rest => piecesFrom word skip rest
  | 0, character :: rest =>
      if word.isPrefixOf (character :: rest) && !word.isEmpty then
        [] :: piecesFrom word (word.length - 1) rest
      else (piecesFrom word 0 rest).modifyHead (character :: ·)

/-- The pieces of a text between the occurrences of a nonempty word, which are taken from left to
right and do not overlap. -/
def splitAtWord (text word : String) : List String :=
  (piecesFrom word.toList 0 text.toList).map String.ofList

section

variable {mark : Char} {word : List Char}

/-- A word does not begin in a piece that its first character is not in. -/
theorem piecesFrom_of_absent {piece : List Char} (absent : mark ∉ piece) :
    piecesFrom (mark :: word) 0 piece = [piece] := by
  induction piece with
  | nil => rfl
  | cons character rest ih =>
      rw [List.mem_cons, not_or] at absent
      simp [piecesFrom, absent.1, ih absent.2]

theorem piecesFrom_length (passed rest : List Char) :
    piecesFrom word passed.length (passed ++ rest) = piecesFrom word 0 rest := by
  induction passed with
  | nil => rfl
  | cons character passed ih => rw [List.cons_append, List.length_cons, piecesFrom, ih]

/-- A piece that the first character of the word is not in ends where the word stands. -/
theorem piecesFrom_append {piece : List Char} (absent : mark ∉ piece) (rest : List Char) :
    piecesFrom (mark :: word) 0 (piece ++ (mark :: word ++ rest)) =
      piece :: piecesFrom (mark :: word) 0 rest := by
  induction piece with
  | nil =>
      have begins : (mark :: word).isPrefixOf (mark :: (word ++ rest)) = true :=
        List.isPrefixOf_iff_prefix.mpr (List.prefix_append (mark :: word) rest)
      rw [List.nil_append, List.cons_append, piecesFrom, begins]
      exact congrArg ([] :: ·) (piecesFrom_length word rest)
  | cons character piece ih =>
      rw [List.mem_cons, not_or] at absent
      have elsewhere : (mark :: word).isPrefixOf
          (character :: (piece ++ (mark :: word ++ rest))) = false := by
        simp [List.isPrefixOf, absent.1]
      rw [List.cons_append, piecesFrom, elsewhere, ih absent.2]
      rfl

/-- Pieces that the first character of a word is not in are told apart again where they stand with
the word in between. -/
theorem piecesFrom_intercalate {pieces : List (List Char)} (nonempty : pieces ≠ [])
    (absent : ∀ piece ∈ pieces, mark ∉ piece) :
    piecesFrom (mark :: word) 0 ((mark :: word).intercalate pieces) = pieces := by
  induction pieces with
  | nil => exact absurd rfl nonempty
  | cons piece rest ih =>
      rw [List.forall_mem_cons] at absent
      cases rest with
      | nil =>
          rw [List.intercalate_singleton]
          exact piecesFrom_of_absent absent.1
      | cons next others =>
          rw [List.intercalate_cons_cons, List.append_assoc, piecesFrom_append absent.1,
            ih (List.cons_ne_nil next others) absent.2]

end

theorem splitAtWord_intercalate (mark : Char) (word : List Char) {pieces : List String}
    (nonempty : pieces ≠ []) (absent : ∀ piece ∈ pieces, mark ∉ piece.toList) :
    splitAtWord ((String.ofList (mark :: word)).intercalate pieces) (String.ofList (mark :: word)) =
      pieces := by
  have divided : piecesFrom (mark :: word) 0
      ((mark :: word).intercalate (pieces.map String.toList)) = pieces.map String.toList :=
    piecesFrom_intercalate (by simpa using nonempty) (List.forall_mem_map.mpr absent)
  rw [splitAtWord, String.toList_intercalate, String.toList_ofList, divided, List.map_map]
  simp

/-! ## Blanks around a text -/

/-- A text with blanks put around another one. -/
def IsPadded (text padded : String) : Prop :=
  ∃ before after : String, padded = before ++ text ++ after ∧
    (∀ character ∈ before.toList, isBlank character = true) ∧
      ∀ character ∈ after.toList, isBlank character = true

theorem trimChars_append {before after : List Char}
    (blankBefore : ∀ character ∈ before, isBlank character = true)
    (blankAfter : ∀ character ∈ after, isBlank character = true) (text : List Char) :
    trimChars (before ++ text ++ after) = trimChars text := by
  have blankBehind : ∀ character ∈ after.reverse, isBlank character = true :=
    fun character member => blankAfter character (List.mem_reverse.mp member)
  rw [trimChars, trimChars, List.append_assoc, List.dropWhile_append_of_pos blankBefore,
    List.dropWhile_append]
  split
  · rename_i empty
    rw [List.dropWhile_eq_nil_iff.mpr blankAfter, List.isEmpty_iff.mp empty]
  · rw [List.reverse_append, List.dropWhile_append_of_pos blankBehind]

theorem trim_of_isPadded {text padded : String} (isPadded : IsPadded text padded) :
    trim padded = trim text := by
  obtain ⟨before, after, rfl, blankBefore, blankAfter⟩ := isPadded
  rw [trim, trim, String.toList_append, String.toList_append,
    trimChars_append blankBefore blankAfter]

end Text

namespace ElementType

theorem parse_of_isPadded {text padded : String} (isPadded : Text.IsPadded text padded) :
    parse padded = parse text := by
  rw [parse, parse, Text.trim_of_isPadded isPadded]

/-- The name of an element type is one of its spellings, and there are no blanks in it. -/
theorem parse_cppName (type : ElementType) : parse type.cppName = .ok type := by
  cases type <;> decide +kernel

theorem map_parse_of_isPadded {types : List ElementType} {padded : List String}
    (arePadded : List.Forall₂ Text.IsPadded (types.map cppName) padded) :
    padded.map parse = types.map .ok := by
  induction types generalizing padded with
  | nil =>
      cases arePadded
      rfl
  | cons type types ih =>
      cases arePadded with
      | cons isPadded arePadded =>
          rw [List.map_cons, List.map_cons, parse_of_isPadded isPadded, parse_cppName,
            ih arePadded]

end ElementType

namespace QueryShape

theorem cppType_eq (shape : QueryShape) :
    shape.cppType = shape.queryType ++ String.singleton '<' ++ (shape.argumentText ++ ">") := by
  rw [cppType, argumentText, ← String.append_assoc]
  rfl

/-- Between the brackets of a type stand the names of its arguments and nothing else. -/
theorem splitAtWord_argumentText (shape : QueryShape) :
    Text.splitAtWord shape.argumentText ", " = shape.arguments.map ElementType.cppName := by
  refine Text.splitAtWord_intercalate ',' [' '] ?_ ?_
  · simp [arguments]
  · rw [List.forall_mem_map]
    exact fun type _ => type.cppName_plain ',' (by simp)

/-- The type of a query, whatever its class template is called, is cut at its last opening bracket
into the name of the template and the arguments, which the closing bracket ends. The arguments are
one more than the keys, and with any blanks around each of them they are read as the keys in order
and then the annotation. -/
theorem cppType_reads_back (shape : QueryShape) :
    ∃ arguments : String,
      Text.cutAtLast? '<' shape.cppType = some (shape.queryType, arguments ++ ">") ∧
      (Text.splitAtWord arguments ", ").length = shape.keys.length + 1 ∧
      ∀ padded, List.Forall₂ Text.IsPadded (Text.splitAtWord arguments ", ") padded →
        padded.map ElementType.parse = (shape.keys ++ [shape.annotation]).map .ok := by
  refine ⟨shape.argumentText, ?_, ?_, fun padded arePadded => ?_⟩
  · have absent : '<' ∉ (shape.argumentText ++ ">").toList := by
      rw [String.toList_append, List.mem_append, not_or]
      exact ⟨shape.not_mem_argumentText '<' (by simp), by decide⟩
    rw [cppType_eq, Text.cutAtLast?_append absent]
  · rw [splitAtWord_argumentText, List.length_map, arguments, List.length_append]
    rfl
  · rw [splitAtWord_argumentText] at arePadded
    exact ElementType.map_parse_of_isPadded arePadded

/-- Brackets and commas in the name of the template are not taken for those of the arguments. -/
theorem cppType_reads_back_nested :
    Text.cutAtLast? '<' (cppType ⟨"Q<int>, R", [.uint32], .double, .member "rows"⟩) =
        some ("Q<int>, R", "uint32_t, double>") ∧
      ["\u2003uint32_t", "double\t\u00A0"].map ElementType.parse = [.ok .uint32, .ok .double] := by
  obtain ⟨arguments, cut, -, reads⟩ :=
    cppType_reads_back ⟨"Q<int>, R", [.uint32], .double, .member "rows"⟩
  have cutHere :
      Text.cutAtLast? '<' (cppType ⟨"Q<int>, R", [.uint32], .double, .member "rows"⟩) =
        some ("Q<int>, R", "uint32_t, double" ++ ">") := by decide +kernel
  have same : arguments ++ ">" = "uint32_t, double" ++ ">" :=
    congrArg Prod.snd (Option.some.inj (cut.symm.trans cutHere))
  obtain rfl : arguments = "uint32_t, double" := (String.append_left_inj ">").mp same
  have pieces : Text.splitAtWord "uint32_t, double" ", " = ["uint32_t", "double"] := by
    decide +kernel
  have wide : ∀ character ∈ "\u2003".toList, Text.isBlank character = true := by
    simp only [String.reduceToList, List.forall_mem_singleton]
    decide
  have narrow : ∀ character ∈ "\t\u00A0".toList, Text.isBlank character = true := by
    simp only [String.reduceToList, List.forall_mem_cons]
    exact ⟨by decide, by decide, List.forall_mem_nil _⟩
  refine ⟨cut, reads _ ?_⟩
  rw [pieces]
  exact .cons ⟨"\u2003", "", by decide, wide, by simp⟩
    (.cons ⟨"", "\t\u00A0", by decide, by simp, narrow⟩ .nil)

end QueryShape

end QueryFoundry
