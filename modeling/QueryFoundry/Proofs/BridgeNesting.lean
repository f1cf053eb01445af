import QueryFoundry.Proofs.BridgeReading
import QueryFoundry.Proofs.InitSymbols

/-!
# The form of a bridge

A bridge is well nested in its brackets, has the same number of lines whatever it is for, and
defines its init function in the last one. The brackets are followed by the row of those that are
open: a text in which there are none leaves it as it is, a text that is written out is followed step
by step, and a bridge is put together from texts of both kinds.
-/

namespace QueryFoundry

/-- A kind of bracket. -/
inductive Bracket where
  | brace
  | parenthesis
deriving DecidableEq, Repr

namespace Bracket

def opened? : Char → Option Bracket
  | '\x7b' => some brace
  | '(' => some parenthesis
  | _ => none

def closed? : Char → Option Bracket
  | '\x7d' => some brace
  | ')' => some parenthesis
  | _ => none

/-- The brackets that are open behind a character, the last one of them in front. Only a bracket of
the same kind as the last one can be closed. -/
def next (present : List Bracket) (character : Char) : Option (List Bracket) :=
  match opened? character, closed? character with
  | some bracket, _ => some (bracket :: present)
  | none, none => some present
  | none, some bracket => if present.head? = some bracket then some present.tail else none

/-- The brackets that are open behind some characters. -/
def openBehind (present : List Bracket) (characters : List Char) : Option (List Bracket) :=
  characters.foldlM next present

end Bracket

/-- Behind a text, some brackets are open if others are open in front of it. -/
def Passes (present : List Bracket) (text : String) (behind : List Bracket) : Prop :=
  Bracket.openBehind present text.toList = some behind

instance (present : List Bracket) (text : String) (behind : List Bracket) :
    Decidable (Passes present text behind) :=
  inferInstanceAs (Decidable (Bracket.openBehind present text.toList = some behind))

/-- A text in which all brackets are closed, in the reverse order of that in which they are
opened. -/
def WellNested (text : String) : Prop := Passes [] text []

instance : DecidablePred WellNested := fun text =>
  inferInstanceAs (Decidable (Passes [] text []))

namespace Bracket

variable {present behind : List Bracket} {character : Char} {characters : List Char}

theorem closed?_of_opened? {bracket : Bracket} (opens : opened? character = some bracket) :
    closed? character = none := by
  unfold opened? at opens
  split at opens
  · rfl
  · rfl
  · cases opens

theorem next_cases (moved : next present character = some behind) :
    (∃ bracket, opened? character = some bracket ∧ closed? character = none ∧
      behind = bracket :: present) ∨
    (∃ bracket, opened? character = none ∧ closed? character = some bracket ∧
      present = bracket :: behind) ∨
    opened? character = none ∧ closed? character = none ∧ behind = present := by
  unfold next at moved
  split at moved
  · rename_i bracket opens
    cases moved
    exact .inl ⟨bracket, opens, closed?_of_opened? opens, rfl⟩
  · rename_i opens closes
    cases moved
    exact .inr (.inr ⟨opens, closes, rfl⟩)
  · rename_i bracket opens closes
    split at moved
    · rename_i last
      cases moved
      obtain ⟨rest, rfl⟩ := List.head?_eq_some_iff.mp last
      exact .inr (.inl ⟨bracket, opens, closes, rfl⟩)
    · cases moved

theorem count_next (moved : next present character = some behind) (bracket : Bracket) :
    present.count bracket + (if opened? character = some bracket then 1 else 0) =
      behind.count bracket + (if closed? character = some bracket then 1 else 0) := by
  rcases next_cases moved with ⟨other, opens, closes, rfl⟩ | ⟨other, opens, closes, rfl⟩ |
    ⟨opens, closes, rfl⟩
  · simp [opens, closes, List.count_cons]
  · simp [opens, closes, List.count_cons]
  · simp [opens, closes]

/-- What is opened is closed again or open at the end. -/
theorem count_openBehind (passed : openBehind present characters = some behind)
    (bracket : Bracket) :
    present.count bracket + characters.countP (opened? · = some bracket) =
      behind.count bracket + characters.countP (closed? · = some bracket) := by
  induction characters generalizing present with
  | nil =>
      cases passed
      rfl
  | cons character rest ih =>
      obtain ⟨between, moved, goesOn⟩ := Option.bind_eq_some_iff.mp passed
      have first := count_next moved bracket
      have others := ih goesOn
      simp only [List.countP_cons, decide_eq_true_eq]
      omega

theorem openBehind_append (first second : List Char) :
    openBehind present (first ++ second) = (openBehind present first).bind (openBehind · second) :=
  List.foldlM_append ..

end Bracket

section

variable {present between behind : List Bracket} {text first second : String}

/-- No beginning of a well nested text closes more brackets of a kind than it opens. -/
theorem WellNested.closed_le_opened (nested : WellNested text) {front : List Char}
    (starts : front <+: text.toList) (bracket : Bracket) :
    front.countP (Bracket.closed? · = some bracket) ≤
      front.countP (Bracket.opened? · = some bracket) := by
  obtain ⟨rest, whole⟩ := starts
  unfold WellNested Passes at nested
  rw [← whole, Bracket.openBehind_append] at nested
  obtain ⟨behind, passed, -⟩ := Option.bind_eq_some_iff.mp nested
  have counted := Bracket.count_openBehind passed bracket
  rw [List.count_nil, Nat.zero_add] at counted
  exact counted.symm ▸ Nat.le_add_left ..

/-- Each of them alone could be closed, but not in this order. -/
example : ¬WellNested "(\x7b)\x7d" := by decide

theorem Passes.append (passes : Passes present first between)
    (goesOn : Passes between second behind) : Passes present (first ++ second) behind := by
  unfold Passes at *
  rw [String.toList_append, Bracket.openBehind_append, passes]
  exact goesOn

def IsUnbracketed (text : String) : Prop :=
  ∀ mark ∈ ['\x7b', '\x7d', '(', ')'], mark ∉ text.toList

instance : DecidablePred IsUnbracketed := fun text =>
  List.decidableBAll (fun mark => mark ∉ text.toList) ['\x7b', '\x7d', '(', ')']

theorem isUnbracketed_append_iff :
    IsUnbracketed (first ++ second) ↔ IsUnbracketed first ∧ IsUnbracketed second := by
  simp only [IsUnbracketed, String.toList_append, List.mem_append, not_or, forall_and]

theorem Bracket.next_of_unbracketed {character : Char}
    (unlike : ∀ mark ∈ ['\x7b', '\x7d', '(', ')'], character ≠ mark) :
    next present character = some present := by
  have opens : opened? character = none := by
    unfold opened?
    split
    · exact absurd rfl (unlike _ (by simp))
    · exact absurd rfl (unlike _ (by simp))
    · rfl
  have closes : closed? character = none := by
    unfold closed?
    split
    · exact absurd rfl (unlike _ (by simp))
    · exact absurd rfl (unlike _ (by simp))
    · rfl
  simp [next, opens, closes]

theorem passes_of_isUnbracketed (unbracketed : IsUnbracketed text) :
    Passes present text present := by
  have unlike : ∀ character ∈ text.toList, ∀ mark ∈ ['\x7b', '\x7d', '(', ')'],
      character ≠ mark := by
    rintro _ member mark marked rfl
    exact unbracketed _ marked member
  unfold Passes Bracket.openBehind
  generalize text.toList = characters at unlike
  induction characters with
  | nil => rfl
  | cons character rest ih =>
      rw [List.forall_mem_cons] at unlike
      rw [List.foldlM_cons, Bracket.next_of_unbracketed unlike.1]
      exact ih unlike.2

theorem Passes.ended_cons {rest : List String} (passes : Passes present text between)
    (goesOn : Passes between (ended rest) behind) :
    Passes present (ended (text :: rest)) behind := by
  have feed : Passes between "\n" between := passes_of_isUnbracketed (by decide)
  rw [QueryFoundry.ended_cons]
  exact (passes.append feed).append goesOn

theorem passes_ended {lines : List String} (followed : lines.foldlM
    (fun present line => Bracket.openBehind present line.toList) present = some behind) :
    Passes present (ended lines) behind := by
  induction lines generalizing present with
  | nil =>
      cases followed
      rfl
  | cons line rest ih =>
      obtain ⟨between, passed, goesOn⟩ := Option.bind_eq_some_iff.mp followed
      exact Passes.ended_cons passed (ih goesOn)

theorem Passes.ended_append {lines others : List String}
    (passes : Passes present (ended lines) between)
    (goesOn : Passes between (ended others) behind) :
    Passes present (ended (lines ++ others)) behind := by
  rw [QueryFoundry.ended_append]
  exact passes.append goesOn

end

namespace QueryShape

variable {shape : QueryShape} {name : String}

/-- A shape whose free texts have no brackets. -/
structure IsUnbracketed (shape : QueryShape) : Prop where
  queryType : QueryFoundry.IsUnbracketed shape.queryType
  member : ∀ name, shape.fetch = .member name → QueryFoundry.IsUnbracketed name

theorem isUnbracketed_cppName (type : ElementType) : QueryFoundry.IsUnbracketed type.cppName := by
  cases type <;> decide

theorem isUnbracketed_cppType (typed : QueryFoundry.IsUnbracketed shape.queryType) :
    QueryFoundry.IsUnbracketed shape.cppType := by
  have between : QueryFoundry.IsUnbracketed ", " := by decide
  have arguments : QueryFoundry.IsUnbracketed shape.argumentText := by
    intro mark marked
    refine not_mem_intercalate (between mark marked) ?_
    rw [List.forall_mem_map]
    exact fun type _ => isUnbracketed_cppName type mark marked
  rw [cppType, isUnbracketed_append_iff, isUnbracketed_append_iff, isUnbracketed_append_iff]
  exact ⟨⟨⟨typed, by decide⟩, arguments⟩, by decide⟩

theorem isUnbracketed_placeholderExpression (value : Int64) :
    QueryFoundry.IsUnbracketed (placeholderExpression value) := by
  intro mark marked
  simp only [List.mem_cons, List.not_mem_nil, or_false] at marked
  rcases marked with rfl | rfl | rfl | rfl
  all_goals exact not_mem_placeholderExpression (by decide) (by decide) value

theorem passes_headLines (named : QueryFoundry.IsUnbracketed name)
    (typed : QueryFoundry.IsUnbracketed shape.cppType) :
    Passes [] (ended (headLines shape name)) [] := by
  have comment : Passes [] ("// Bridge for module " ++ name ++ ": " ++ shape.cppType) [] := by
    refine passes_of_isUnbracketed ?_
    rw [isUnbracketed_append_iff, isUnbracketed_append_iff, isUnbracketed_append_iff]
    exact ⟨⟨⟨by decide +kernel, named⟩, by decide⟩, typed⟩
  have first : Passes [] "// Generated by querygen. Do not edit." [] := by decide +kernel
  exact first.ended_cons (comment.ended_cons (passes_ended (by decide +kernel)))

/-- In front of the body of the fetch operation, a namespace and this operation are open. -/
theorem passes_middleLines (typed : QueryFoundry.IsUnbracketed shape.cppType) :
    Passes [] (ended shape.middleLines) [.brace, .brace] := by
  have declared : Passes [] (ended tableDeclaration) [] := passes_ended (by decide +kernel)
  have entered : Passes [] (ended ["", "namespace \x7b", ""]) [.brace] :=
    passes_ended (by decide +kernel)
  have aliased : Passes [.brace] ("typedef " ++ shape.cppType ++ " query_t;") [.brace] := by
    refine passes_of_isUnbracketed ?_
    rw [isUnbracketed_append_iff, isUnbracketed_append_iff]
    exact ⟨⟨by decide, typed⟩, by decide⟩
  have typedef : Passes []
      (ended ["", "namespace \x7b", "", "typedef " ++ shape.cppType ++ " query_t;", ""]) [.brace] :=
    entered.ended_append (aliased.ended_cons (by decide))
  have run : Passes [.brace] (ended runOperation) [.brace] := passes_ended (by decide +kernel)
  have counted : Passes [.brace] (ended rowCountOperation) [.brace] :=
    passes_ended (by decide +kernel)
  have opened : Passes [.brace] (ended ["", "long fetch_data(void *handle) \x7b"])
      [.brace, .brace] := passes_ended (by decide +kernel)
  have empty : Passes [.brace] (ended [""]) [.brace] := by decide
  exact ((((declared.ended_append typedef).ended_append run).ended_append empty).ended_append
    counted).ended_append opened

theorem passes_fetchBody {fetch : FetchMode}
    (unbracketed : ∀ name, fetch = .member name → QueryFoundry.IsUnbracketed name) :
    Passes [.brace, .brace] (ended (fetchBody fetch)) [.brace, .brace] := by
  cases fetch with
  | placeholder value =>
      have ignored : Passes [.brace, .brace] "  (void)handle;" [.brace, .brace] := by decide +kernel
      have returned : Passes [.brace, .brace] ("  return " ++ placeholderExpression value ++ ";")
          [.brace, .brace] := by
        refine passes_of_isUnbracketed ?_
        rw [isUnbracketed_append_iff, isUnbracketed_append_iff]
        exact ⟨⟨by decide, isUnbracketed_placeholderExpression value⟩, by decide⟩
      exact ignored.ended_cons (returned.ended_cons (by decide))
  | member name =>
      have taken : Passes [.brace, .brace] "  query_t *q = static_cast<query_t *>(handle);"
          [.brace, .brace] := by decide +kernel
      have opened : Passes [.brace, .brace] "  return static_cast<long>(q->"
          [.parenthesis, .brace, .brace] := by decide +kernel
      have named : Passes [.parenthesis, .brace, .brace] name [.parenthesis, .brace, .brace] :=
        passes_of_isUnbracketed (unbracketed name rfl)
      have returned := (opened.append named).append (by decide : Passes _ ");" [.brace, .brace])
      exact taken.ended_cons (returned.ended_cons (by decide))

theorem passes_initLine (named : QueryFoundry.IsUnbracketed name) :
    Passes [] (initLine name) [] := by
  have declared : Passes [] "extern \"C\" const querygen_module *" [] := by decide +kernel
  have symbol : Passes [] (initSymbol name) [] :=
    passes_of_isUnbracketed (isUnbracketed_append_iff.mpr ⟨by decide, named⟩)
  have defined : Passes [] "(void) \x7b return &module_table; \x7d" [] := by decide +kernel
  exact (declared.append symbol).append defined

theorem wellNested_render (named : QueryFoundry.IsUnbracketed name)
    (unbracketed : shape.IsUnbracketed) : WellNested (shape.render name) := by
  have typed := isUnbracketed_cppType unbracketed.queryType
  -- The middle lines leave two braces open, and the lines behind the fetch operation close them.
  have released : Passes [.brace, .brace] (ended releaseLines) [] :=
    passes_ended (by decide +kernel)
  have last : Passes [] (ended [initLine name]) [] :=
    (passes_initLine named).ended_cons (by decide)
  change Passes [] (ended (shape.lines name)) []
  rw [lines_eq]
  exact (passes_headLines named typed).ended_append ((passes_middleLines typed).ended_append
    ((passes_fetchBody unbracketed.member).ended_append (released.ended_append last)))

/-- A bridge into which no line feed and no bracket is put is well nested, so that no beginning of
it closes more than it opens. It always has the same number of lines, and the last of them, and no
other, starts as the definition of an init function and defines the one for the module. -/
theorem render_form (named : IsLine name) (nameUnbracketed : QueryFoundry.IsUnbracketed name)
    (oneLine : shape.IsOneLine) (unbracketed : shape.IsUnbracketed) :
    (WellNested (shape.render name) ∧
      ∀ front, front <+: (shape.render name).toList → ∀ bracket,
        front.countP (Bracket.closed? · = some bracket) ≤
          front.countP (Bracket.opened? · = some bracket)) ∧
    (linesOf (shape.render name)).length = 50 ∧
    (linesOf (shape.render name)).filter
        (fun line => initDefinitionStart.toList.isPrefixOf line.toList) =
      [initDefinition (initSymbol name)] ∧
    (linesOf (shape.render name)).getLast? = some (initDefinition (initSymbol name)) := by
  have nested := wellNested_render nameUnbracketed unbracketed
  have lines : linesOf (shape.render name) = shape.lines name :=
    linesOf_ended (isLine_of_mem_lines oneLine named)
  refine ⟨⟨nested, fun front starts => nested.closed_le_opened starts⟩, ?_, ?_, ?_⟩
  · rw [lines, lines_eq]
    simp only [List.length_append, length_fetchBody]
    rfl
  · have others : (shape.frontLines name).filter
        (fun line => initDefinitionStart.toList.isPrefixOf line.toList) = [] := by
      rw [List.filter_eq_nil_iff]
      intro line inFront starts
      exact shape.isOther_of_mem_frontLines name line inFront (List.isPrefixOf_iff_prefix.mp starts)
    have last := not_not.mp (not_isOther (initSymbol name))
    rw [lines, lines_eq_frontLines, List.filter_append, others, initLine_eq, List.nil_append]
    exact List.filter_cons_of_pos (List.isPrefixOf_iff_prefix.mpr last)
  · rw [lines, lines_eq_frontLines, List.getLast?_concat, initLine_eq]

theorem render_form_member :
    WellNested (render ⟨"R", [], .long, .member "rows"⟩ "m") ∧
      (linesOf (render ⟨"R", [], .long, .member "rows"⟩ "m")).getLast? =
        some (initDefinition "querygen_init_m") := by
  have oneLine : IsOneLine ⟨"R", [], .long, .member "rows"⟩ := by
    refine ⟨by decide, ?_⟩
    rintro _ ⟨⟩
    decide
  have unbracketed : IsUnbracketed ⟨"R", [], .long, .member "rows"⟩ := by
    refine ⟨by decide, ?_⟩
    rintro _ ⟨⟩
    decide
  have named : IsLine "m" := by decide
  obtain ⟨⟨nested, -⟩, -, -, last⟩ := render_form named (by decide) oneLine unbracketed
  exact ⟨nested, last⟩

end QueryShape

end QueryFoundry
