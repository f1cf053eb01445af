import Mathlib.Algebra.BigOperators.Group.List.Basic
import Mathlib.Algebra.GroupWithZero.Nat
import Mathlib.Data.List.Infix
import QueryFoundry.Template.QueryHeader

/-!
# The hash in a query header

What comes of the places of a word that is replaced in a text. The template of a header keeps its
placeholders apart from what is around them: next to each of them stands a character that is not
part of the word. So a place of the word lies in a gap between two placeholders, and there is none
there, or in what was put in for one of them; it never reaches from the one into the other.
-/

namespace QueryFoundry

namespace Text

/-- At how many places of a text a word begins. -/
def occurrences (word : List Char) : List Char → Nat
  | [] => 0
  | character :: rest =>
      (if word.isPrefixOf (character :: rest) then 1 else 0) + occurrences word rest

/-- A text begins with a character that is foreign to a word. -/
def StartsOff (word text : List Char) : Prop :=
  ∃ mark ∈ text.head?, mark ∉ word

/-- A text ends with a character that is foreign to a word. -/
def EndsOff (word text : List Char) : Prop :=
  ∃ mark ∈ text.getLast?, mark ∉ word

instance (word text : List Char) : Decidable (StartsOff word text) :=
  Option.decidableExistsMem text.head?

instance (word text : List Char) : Decidable (EndsOff word text) :=
  Option.decidableExistsMem text.getLast?

/-- Texts hold a word nowhere, and wherever something is put between two of them, characters that
are foreign to the word stand on both sides of it. -/
structure KeepOff (word : List Char) (gaps : List (List Char)) : Prop where
  free : ∀ gap ∈ gaps, occurrences word gap = 0
  ends : ∀ gap ∈ gaps.dropLast, EndsOff word gap
  starts : ∀ gap ∈ gaps.tail, StartsOff word gap

section

variable {word substitute : List Char}

theorem StartsOff.exists_eq {text : List Char} (startsOff : StartsOff word text) :
    ∃ mark rest, text = mark :: rest ∧ mark ∉ word := by
  obtain ⟨mark, first, foreign⟩ := startsOff
  obtain ⟨rest, rfl⟩ := List.head?_eq_some_iff.mp first
  exact ⟨mark, rest, rfl, foreign⟩

theorem EndsOff.exists_eq {text : List Char} (endsOff : EndsOff word text) :
    ∃ body mark, text = body ++ [mark] ∧ mark ∉ word := by
  obtain ⟨mark, last, foreign⟩ := endsOff
  obtain ⟨body, rfl⟩ := List.getLast?_eq_some_iff.mp last
  exact ⟨body, mark, rfl, foreign⟩

theorem StartsOff.append {left : List Char} (startsOff : StartsOff word left)
    (right : List Char) : StartsOff word (left ++ right) := by
  obtain ⟨mark, rest, rfl, foreign⟩ := startsOff.exists_eq
  exact ⟨mark, rfl, foreign⟩

theorem KeepOff.later {gap next : List Char} {others : List (List Char)}
    (keepOff : KeepOff word (gap :: next :: others)) : KeepOff word (next :: others) where
  free text member := keepOff.free text (List.mem_cons_of_mem _ member)
  ends text member := keepOff.ends text (List.mem_cons_of_mem _ member)
  starts text member := keepOff.starts text (List.mem_of_mem_tail member)

/-- What stands behind the first text and what was put in there keeps the word off as well. -/
theorem KeepOff.startsOff {gap next : List Char} {others : List (List Char)}
    (keepOff : KeepOff word (gap :: next :: others)) (inner : List Char) :
    StartsOff word (inner.intercalate (next :: others)) := by
  have nextStarts := keepOff.starts next (by simp)
  cases others with
  | nil => simpa using nextStarts
  | cons following others =>
      rw [List.intercalate_cons_cons, List.append_assoc]
      exact nextStarts.append _

/-! ## Places of a word -/

theorem occurrences_eq_zero_iff (nonempty : word ≠ []) (text : List Char) :
    occurrences word text = 0 ↔ ¬word <:+: text := by
  induction text with
  | nil => simp [occurrences, nonempty]
  | cons character rest ih =>
      rw [occurrences, List.infix_cons_iff, not_or, Nat.add_eq_zero_iff, ih,
        ← List.isPrefixOf_iff_prefix]
      simp

theorem occurrences_cons_eq_zero_iff {character : Char} {rest : List Char} :
    occurrences word (character :: rest) = 0 ↔
      word.isPrefixOf (character :: rest) = false ∧ occurrences word rest = 0 := by
  rw [occurrences, Nat.add_eq_zero_iff]
  cases word.isPrefixOf (character :: rest) <;> simp

/-- No place of a word reaches over a foreign character. -/
theorem isPrefixOf_append_mark {mark : Char} (foreign : mark ∉ word) (left right : List Char) :
    word.isPrefixOf (left ++ mark :: right) = word.isPrefixOf left := by
  induction word generalizing left with
  | nil => simp
  | cons first word ih =>
      rw [List.mem_cons, not_or] at foreign
      cases left with
      | nil => simp [List.isPrefixOf, Ne.symm foreign.1]
      | cons character left => simp [List.isPrefixOf, ih foreign.2]

theorem isPrefixOf_mark {mark : Char} (nonempty : word ≠ []) (foreign : mark ∉ word)
    (rest : List Char) : word.isPrefixOf (mark :: rest) = false := by
  cases word with
  | nil => exact absurd rfl nonempty
  | cons first word => exact isPrefixOf_append_mark foreign [] rest

theorem occurrences_append_mark {mark : Char} (nonempty : word ≠ []) (foreign : mark ∉ word)
    (left right : List Char) :
    occurrences word (left ++ mark :: right) = occurrences word left + occurrences word right := by
  induction left with
  | nil => simp [occurrences, isPrefixOf_mark nonempty foreign]
  | cons character left ih =>
      have here := isPrefixOf_append_mark foreign (character :: left) right
      rw [List.cons_append] at here
      rw [List.cons_append, occurrences, occurrences, here, ih, Nat.add_assoc]

theorem occurrences_append_of_endsOff {left : List Char} (nonempty : word ≠ [])
    (endsOff : EndsOff word left) (right : List Char) :
    occurrences word (left ++ right) = occurrences word left + occurrences word right := by
  obtain ⟨body, mark, rfl, foreign⟩ := endsOff.exists_eq
  have alone := occurrences_append_mark nonempty foreign body []
  rw [List.append_assoc, List.singleton_append, occurrences_append_mark nonempty foreign, alone]
  rfl

theorem occurrences_append_of_startsOff {right : List Char} (nonempty : word ≠ [])
    (left : List Char) (startsOff : StartsOff word right) :
    occurrences word (left ++ right) = occurrences word left + occurrences word right := by
  obtain ⟨mark, rest, rfl, foreign⟩ := startsOff.exists_eq
  have alone := occurrences_append_mark nonempty foreign [] rest
  rw [List.nil_append] at alone
  rw [occurrences_append_mark nonempty foreign, alone, occurrences, Nat.zero_add]

/-- Between texts that keep a word off, it stands only in what is put there. -/
theorem occurrences_intercalate (nonempty : word ≠ []) (inner : List Char)
    {gaps : List (List Char)} (keepOff : KeepOff word gaps) :
    occurrences word (inner.intercalate gaps) =
      (gaps.length - 1) * occurrences word inner := by
  induction gaps with
  | nil => simp [occurrences]
  | cons gap rest ih =>
      have gapFree := keepOff.free gap (by simp)
      cases rest with
      | nil => simpa using gapFree
      | cons next others =>
          have gapEnds := keepOff.ends gap (by simp)
          rw [List.intercalate_cons_cons, List.append_assoc,
            occurrences_append_of_endsOff nonempty gapEnds,
            occurrences_append_of_startsOff nonempty inner (keepOff.startsOff inner), gapFree,
            ih keepOff.later]
          simp only [List.length_cons, Nat.add_sub_cancel, Nat.succ_mul]
          omega

/-! ## Replacing a word -/

theorem replaceFrom_cons {character : Char} {rest : List Char}
    (here : word.isPrefixOf (character :: rest) = false) :
    replaceFrom word substitute 0 (character :: rest) =
      character :: replaceFrom word substitute 0 rest := by
  rw [replaceFrom, here]
  rfl

theorem replaceFrom_length (passed rest : List Char) :
    replaceFrom word substitute passed.length (passed ++ rest) =
      replaceFrom word substitute 0 rest := by
  induction passed with
  | nil => rfl
  | cons character passed ih =>
      rw [List.cons_append, List.length_cons, replaceFrom, ih]

/-- A word at the front is replaced, and what was put in is not looked at again. -/
theorem replaceFrom_word (nonempty : word ≠ []) (rest : List Char) :
    replaceFrom word substitute 0 (word ++ rest) =
      substitute ++ replaceFrom word substitute 0 rest := by
  obtain ⟨first, word, rfl⟩ := List.exists_cons_of_ne_nil nonempty
  have begins : (first :: word).isPrefixOf (first :: (word ++ rest)) = true :=
    List.isPrefixOf_iff_prefix.mpr (List.prefix_append (first :: word) rest)
  rw [List.cons_append, replaceFrom, begins]
  exact congrArg (substitute ++ ·) (replaceFrom_length word rest)

theorem replaceFrom_of_free {text : List Char} (free : occurrences word text = 0) :
    replaceFrom word substitute 0 text = text := by
  induction text with
  | nil => rfl
  | cons character rest ih =>
      obtain ⟨here, restFree⟩ := occurrences_cons_eq_zero_iff.mp free
      rw [replaceFrom_cons here, ih restFree]

theorem replaceFrom_append_mark {mark : Char} {body : List Char} (nonempty : word ≠ [])
    (foreign : mark ∉ word) (free : occurrences word body = 0) (rest : List Char) :
    replaceFrom word substitute 0 (body ++ mark :: rest) =
      body ++ mark :: replaceFrom word substitute 0 rest := by
  induction body with
  | nil => exact replaceFrom_cons (isPrefixOf_mark nonempty foreign rest)
  | cons character body ih =>
      obtain ⟨here, bodyFree⟩ := occurrences_cons_eq_zero_iff.mp free
      have hereStill := isPrefixOf_append_mark foreign (character :: body) rest
      rw [here, List.cons_append] at hereStill
      rw [List.cons_append, replaceFrom_cons hereStill, ih bodyFree, List.cons_append]

/-- A text without the word that ends with a foreign character is passed over. -/
theorem replaceFrom_append_of_endsOff {left : List Char} (nonempty : word ≠ [])
    (endsOff : EndsOff word left) (free : occurrences word left = 0) (rest : List Char) :
    replaceFrom word substitute 0 (left ++ rest) = left ++ replaceFrom word substitute 0 rest := by
  obtain ⟨body, mark, rfl, foreign⟩ := endsOff.exists_eq
  rw [occurrences_append_mark nonempty foreign] at free
  rw [List.append_assoc, List.append_assoc, List.singleton_append, List.singleton_append]
  exact replaceFrom_append_mark nonempty foreign free rest

/-- Between texts that keep a word off it is replaced each time, and all else stays. -/
theorem replaceFrom_intercalate (nonempty : word ≠ []) {gaps : List (List Char)}
    (keepOff : KeepOff word gaps) :
    replaceFrom word substitute 0 (word.intercalate gaps) = substitute.intercalate gaps := by
  induction gaps with
  | nil => rfl
  | cons gap rest ih =>
      have gapFree := keepOff.free gap (by simp)
      cases rest with
      | nil => simpa using replaceFrom_of_free gapFree
      | cons next others =>
          have gapEnds := keepOff.ends gap (by simp)
          rw [List.intercalate_cons_cons, List.intercalate_cons_cons, List.append_assoc,
            List.append_assoc, replaceFrom_append_of_endsOff nonempty gapEnds gapFree,
            replaceFrom_word nonempty, ih keepOff.later]

/-! ## Reading off what was put in -/

theorem length_intercalate (inner : List Char) (gaps : List (List Char)) :
    (inner.intercalate gaps).length =
      (gaps.map List.length).sum + (gaps.length - 1) * inner.length := by
  induction gaps with
  | nil => simp
  | cons gap rest ih =>
      cases rest with
      | nil => simp
      | cons next others =>
          rw [List.intercalate_cons_cons, List.length_append, List.length_append, ih]
          simp only [List.map_cons, List.sum_cons, List.length_cons, Nat.add_sub_cancel,
            Nat.succ_mul]
          omega

/-- What stands between two texts or more can be read off again: its length is known from that of
the whole, and where it begins from the first text. -/
theorem eq_of_intercalate_gaps_eq {first second gap next : List Char} {others : List (List Char)}
    (same : first.intercalate (gap :: next :: others) =
      second.intercalate (gap :: next :: others)) : first = second := by
  have lengths := congrArg List.length same
  rw [length_intercalate, length_intercalate] at lengths
  have sameLength : first.length = second.length :=
    Nat.eq_of_mul_eq_mul_left (by simp) (Nat.add_left_cancel lengths)
  rw [List.intercalate_cons_cons, List.intercalate_cons_cons, List.append_assoc,
    List.append_assoc] at same
  exact (List.append_inj (List.append_cancel_left same) sameLength).1

end

end Text

namespace QueryHeader

/-- What stands in the template before, between and behind the placeholders. -/
def gaps : List String :=
  ["#ifndef _QUERY_",
    "_H_\n#define _QUERY_",
    "_H_\n\n#include <vector>\n#include <stdint.h>\n#include <tuple>\n#include \"Trie.hpp\"\n" ++
      "#include \"Encoding.hpp\"\n\n#ifdef EXECUTABLE\n#include \"main.hpp\"\n#else\n" ++
      "struct application\x7b\x7d;\n#endif\n\nstruct ParMMapBuffer;\nstruct ParMemoryBuffer;\n\n" ++
      "// template types are the attribute types, followed by the annotation type\n" ++
      "struct Query_",
    " : public application \x7b\n  void* result_",
    ";\n\n  Query_",
    "()\x7b\x7d\n  void run_",
    "();\n\x7d;\n\n#ifdef EXECUTABLE\napplication* init_app()\x7b\n  return new Query_",
    "();\n\x7d\n#endif\n\n#endif\n"]

theorem intercalate_gaps : placeholder.intercalate gaps = template := by
  decide +kernel

theorem keepOff_gaps : Text.KeepOff placeholder.toList (gaps.map String.toList) := by
  obtain ⟨free, ends, starts⟩ :
      (∀ gap ∈ gaps.map String.toList, Text.occurrences placeholder.toList gap = 0) ∧
        (∀ gap ∈ (gaps.map String.toList).dropLast, Text.EndsOff placeholder.toList gap) ∧
          ∀ gap ∈ (gaps.map String.toList).tail, Text.StartsOff placeholder.toList gap := by
    simp only [gaps, placeholder, List.map_cons, List.map_nil, String.toList_append,
      String.reduceToList]
    decide +kernel
  exact ⟨free, ends, starts⟩

theorem placeholder_ne_nil : placeholder.toList ≠ [] := by
  decide

theorem render_eq (hash : String) : render hash = hash.intercalate gaps := by
  rw [render, ← intercalate_gaps, Text.replaceWord, String.toList_intercalate,
    Text.replaceFrom_intercalate placeholder_ne_nil keepOff_gaps, ← String.toList_intercalate,
    String.ofList_toList]

/-- The word of the placeholder stands among the gaps seven times as often as in what is put
between them. -/
theorem occurrences_intercalate_gaps (inner : String) :
    Text.occurrences placeholder.toList (inner.intercalate gaps).toList =
      7 * Text.occurrences placeholder.toList inner.toList := by
  rw [String.toList_intercalate, Text.occurrences_intercalate placeholder_ne_nil _ keepOff_gaps]
  rfl

theorem render_injective : Function.Injective render := by
  intro first second same
  rw [render_eq, render_eq] at same
  have sameLists := congrArg String.toList same
  rw [String.toList_intercalate, String.toList_intercalate] at sameLists
  exact String.toList_inj.mp (Text.eq_of_intercalate_gaps_eq sameLists)

/-- The template holds the placeholder at seven places, and its gaps are all the rest of it. The
header for a hash is made of the same gaps with the hash between them; the word of the placeholder
is found in it only if the hash holds it, and the hash can be told from it. -/
theorem render_splices (hash : String) :
    (Text.occurrences placeholder.toList template.toList = 7 ∧ gaps.length = 8 ∧
      placeholder.intercalate gaps = template ∧
        ∀ gap ∈ gaps, ¬placeholder.toList <:+: gap.toList) ∧
      render hash = hash.intercalate gaps ∧
      (placeholder.toList <:+: (render hash).toList ↔ placeholder.toList <:+: hash.toList) ∧
      ∀ other, render other = render hash ↔ other = hash := by
  have isAbsent (text : List Char) := Text.occurrences_eq_zero_iff placeholder_ne_nil text
  refine ⟨⟨?_, rfl, intercalate_gaps, ?_⟩, render_eq hash, ?_, fun other => render_injective.eq_iff⟩
  · rw [← intercalate_gaps, occurrences_intercalate_gaps]
    decide
  · intro gap member
    exact (isAbsent gap.toList).mp (keepOff_gaps.free gap.toList (List.mem_map_of_mem member))
  · rw [← not_iff_not, ← isAbsent, ← isAbsent, render_eq, occurrences_intercalate_gaps]
    omega

end QueryHeader

end QueryFoundry
