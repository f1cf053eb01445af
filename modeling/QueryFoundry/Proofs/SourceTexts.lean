import QueryFoundry.Native.Loader
import QueryFoundry.Proofs.GeneratedFiles
import QueryFoundry.Proofs.InitSymbols

/-!
# Sources with a bridge

What the commands that read a source make of it, and what generation leaves of it where there is no
formatter. A bridge goes behind the source on a line of its own, so the last line of the source is
ended where it is not. The lines of the whole are those of the source and those of the bridge, of
which there are as many for each module. That tells the source from the bridge, whatever the source
holds, and the last bridge from those in the source.
-/

namespace QueryFoundry

open Sandbox
open Text (toOctets ofOctets?_toOctets toOctets_ascii)

variable {σ μ : Type}

/-- What ends the last lines of two texts makes them the same only if it is all that they differ
in. -/
theorem append_closing_eq_iff {first second : String} :
    first ++ closing first = second ++ closing second ↔
      first = second ∨ IsOpen first ∧ second = first ++ "\n" ∨
        IsOpen second ∧ first = second ++ "\n" := by
  constructor
  · intro same
    by_cases firstOpen : IsOpen first
    · by_cases secondOpen : IsOpen second
      · rw [append_closing_of_isOpen firstOpen, append_closing_of_isOpen secondOpen,
          String.append_left_inj] at same
        exact .inl same
      · rw [append_closing_of_isOpen firstOpen, append_closing_of_not_isOpen secondOpen] at same
        exact .inr (.inl ⟨firstOpen, same.symm⟩)
    · rw [append_closing_of_not_isOpen firstOpen] at same
      by_cases secondOpen : IsOpen second
      · rw [append_closing_of_isOpen secondOpen] at same
        exact .inr (.inr ⟨secondOpen, same⟩)
      · rw [append_closing_of_not_isOpen secondOpen] at same
        exact .inl same
  · rintro (rfl | ⟨isOpen, rfl⟩ | ⟨isOpen, rfl⟩)
    · rfl
    · rw [append_closing_of_isOpen isOpen,
        append_closing_of_not_isOpen (not_isOpen_append_lineFeed first)]
    · rw [append_closing_of_isOpen isOpen,
        append_closing_of_not_isOpen (not_isOpen_append_lineFeed second)]

/-! ## The lines of a source and of what is behind it -/

/-- Nothing is behind the last mark only if it is the last character. -/
theorem eq_nil_or_getLast?_of_splitOn {mark : Char} {characters : List Char}
    (nothing : (characters.splitOn mark).getLast? = some []) :
    characters = [] ∨ characters.getLast? = some mark := by
  induction characters with
  | nil => exact .inl rfl
  | cons first rest ih =>
      refine .inr ?_
      obtain ⟨head, tail, cut⟩ := List.exists_cons_of_ne_nil (List.splitOn_ne_nil mark rest)
      rw [List.splitOn_cons_eq_if_modifyHead] at nothing
      by_cases same : first = mark
      · rw [if_pos (beq_iff_eq.mpr same), cut, List.getLast?_cons_cons, ← cut] at nothing
        rcases ih nothing with rfl | last
        · rw [same, List.getLast?_singleton]
        · rw [List.getLast?_cons, last, Option.getD_some]
      · -- The character only makes the first piece longer, so this is not the last one.
        rw [if_neg (by simpa using same), cut, List.modifyHead_cons] at nothing
        cases tail with
        | nil => simp at nothing
        | cons next others =>
            rw [List.getLast?_cons_cons, ← List.getLast?_cons_cons (a := head), ← cut] at nothing
            rcases ih nothing with rfl | last
            · simp at cut
            · rw [List.getLast?_cons, last, Option.getD_some]

/-- Where the last line of a text is ended, nothing that is behind it belongs to that line. -/
theorem exists_splitOn_eq {text : String} (notOpen : ¬IsOpen text) :
    ∃ pieces, ∀ rest, (text.toList ++ rest).splitOn '\n' = pieces ++ rest.splitOn '\n' := by
  rcases eq_empty_or_ended_of_not_isOpen notOpen with rfl | ends
  · exact ⟨[], fun rest => rfl⟩
  · obtain ⟨front, cut⟩ := List.getLast?_eq_some_iff.mp ends
    refine ⟨front.splitOn '\n', fun rest => ?_⟩
    rw [cut, List.append_assoc, List.singleton_append, List.splitOn_append_cons_self]

theorem linesOf_append_ended {text : String} (notOpen : ¬IsOpen text) {lines : List String}
    (unbroken : ∀ line ∈ lines, IsLine line) :
    linesOf (text ++ ended lines) = linesOf text ++ lines := by
  obtain ⟨pieces, cut⟩ := exists_splitOn_eq notOpen
  have alone : text.toList.splitOn '\n' = pieces ++ [[]] := by
    rw [← List.append_nil text.toList, cut, List.splitOn_nil]
  simp [linesOf, String.toList_append, cut, alone, splitOn_ended unbroken]

theorem linesOf_append_closing (text : String) :
    linesOf (text ++ closing text) = linesOf text := by
  by_cases isOpen : IsOpen text
  · have cut : (text.toList ++ ['\n']).splitOn '\n' = text.toList.splitOn '\n' ++ [[]] :=
      List.splitOn_append_cons_self _ _
    have lastLine : (text.toList.splitOn '\n').getLast? ≠ some [] := by
      intro nothing
      rcases eq_nil_or_getLast?_of_splitOn nothing with empty | ends
      · exact isOpen.1 (String.toList_eq_nil_iff.mp empty)
      · exact isOpen.2 ends
    rw [append_closing_of_isOpen isOpen]
    simp [linesOf, String.toList_append, cut, lastLine]
  · rw [append_closing_of_not_isOpen isOpen]

namespace QueryShape

theorem isOneLine_default : IsOneLine {} where
  queryType := by decide
  member := by rintro _ ⟨⟩

theorem length_lines (name other : String) :
    (QueryShape.lines {} name).length = (QueryShape.lines {} other).length :=
  rfl

end QueryShape

namespace CommandLine

/-- The lines of a source with a bridge are those of the source and those of the bridge. -/
theorem linesOf_appendBridge (text : String) {name : String} (named : IsLine name) :
    linesOf (appendBridge text name) = linesOf text ++ QueryShape.lines {} name := by
  have unbroken : ∀ line ∈ QueryShape.lines {} name, IsLine line :=
    QueryShape.isLine_of_mem_lines QueryShape.isOneLine_default named
  have rendered : bridgeSource name = ended (QueryShape.lines {} name) := rfl
  rw [appendBridge_eq, rendered, linesOf_append_ended (not_isOpen_append_closing text) unbroken,
    linesOf_append_closing]

/-- A source with a bridge tells which module the bridge is for, and the source but for the end of
its last line. -/
theorem appendBridge_eq_iff {first second name other : String} (named : IsLine name)
    (otherNamed : IsLine other) :
    appendBridge first name = appendBridge second other ↔
      name = other ∧ first ++ closing first = second ++ closing second := by
  constructor
  · intro same
    have lines : linesOf first ++ QueryShape.lines {} name =
        linesOf second ++ QueryShape.lines {} other := by
      rw [← linesOf_appendBridge first named, same, linesOf_appendBridge second otherNamed]
    -- The bridges are as long, so they are the same number of lines at the end of the same list.
    obtain ⟨-, bridges⟩ := List.append_inj' lines (QueryShape.length_lines name other)
    obtain ⟨rfl, -⟩ := QueryShape.lines_eq_iff.mp bridges
    rw [appendBridge_eq, appendBridge_eq, String.append_left_inj] at same
    exact ⟨rfl, same⟩
  · rintro ⟨rfl, same⟩
    rw [appendBridge_eq, appendBridge_eq, same]

end CommandLine

/-! ## What generation leaves of a source -/

namespace SourceGenerator

variable (loader : ModuleLoader (Workbench μ))

/-- Where a text was written, it is what the file holds, unless a device lies there. -/
theorem readText_of_write {generator : SourceGenerator} {name : ArtifactName} {text : String}
    {given after : Workbench μ} {path : Path}
    (wrote : generator.write (Workbench.host loader) name text given = (.ok path, after))
    (undevised : ∀ kind, after.entry? path ≠ some (.device kind)) :
    (Workbench.host loader).readText path after = (.ok text, after) := by
  obtain ⟨made, written, -, writes, rfl, rfl⟩ := write_eq_ok_iff.mp wrote
  rcases Workbench.entry?_of_writeText loader writes with ⟨executable, there⟩ | ⟨kind, device⟩
  · exact Workbench.readText_of_file loader there
  · exact absurd device (undevised kind)

/-- Without a formatter, generation succeeds exactly if the text can be written, and then the text
is what the file holds. -/
theorem generate_reads_back (generator : SourceGenerator)
    (unformatted : generator.formatter = none) {name : ArtifactName}
    {producer : Producer (Workbench μ)} {bench given after : Workbench μ} {text : String}
    {answer : Except PipelineError Path}
    (produced : producer bench = (.ok text, given))
    (generated : generator.generate (Workbench.host loader) producer name bench =
      (answer, after)) :
    ((∃ path, answer = .ok path) ↔ ∃ made written,
      (Workbench.host loader).createDirectories generator.layout.generatedDir given =
          (.ok (), made) ∧
        (Workbench.host loader).writeText (generator.layout.sourcePath name.text) text made =
          (.ok (), written)) ∧
    ∀ path, answer = .ok path → path = generator.layout.sourcePath name.text ∧
      ((∀ kind, after.entry? path ≠ some (.device kind)) →
        (Workbench.host loader).readText path after = (.ok text, after)) := by
  rw [generate_of_unformatted unformatted produced] at generated
  refine ⟨⟨?_, ?_⟩, ?_⟩
  · rintro ⟨path, rfl⟩
    obtain ⟨made, written, creates, writes, -, -⟩ := write_eq_ok_iff.mp generated
    exact ⟨made, written, creates, writes⟩
  · rintro ⟨made, written, creates, writes⟩
    have succeeds := write_eq_ok_iff.mpr ⟨made, written, creates, writes, rfl, rfl⟩
    exact ⟨_, (Prod.mk.inj (generated.symm.trans succeeds)).1⟩
  · rintro path rfl
    obtain ⟨-, -, -, -, same, -⟩ := write_eq_ok_iff.mp generated
    exact ⟨same, readText_of_write loader generated⟩

end SourceGenerator

namespace CommandLine

/-- A producer with a bridge gives the source with its last line ended and then the bridge, and
nothing else; without a bridge it gives the source. The bridge begins on a line of its own. Two
sources with bridges are the same only if the bridges are for the same module and the sources are
the same but for the end of their last lines. What the producer gives is what generation without a
formatter leaves in the file. -/
theorem sourceProducer_tells_source (host : Host σ) (loader : ModuleLoader (Workbench μ)) :
    (∀ path state, sourceProducer host path none state = readSource host path state) ∧
    (∀ path name state, sourceProducer host path (some name) state =
      ((readSource host path state).1.map (appendBridge · name),
        (readSource host path state).2)) ∧
    (∀ text name, appendBridge text name = text ++ closing text ++ bridgeSource name ∧
      ¬IsOpen (text ++ closing text) ∧
      (IsLine name →
        linesOf (appendBridge text name) = linesOf text ++ QueryShape.lines {} name)) ∧
    (∀ first second name other, IsLine name → IsLine other →
      (appendBridge first name = appendBridge second other ↔ name = other ∧
        (first = second ∨ IsOpen first ∧ second = first ++ "\n" ∨
          IsOpen second ∧ first = second ++ "\n"))) ∧
    ∀ layout name path bridge bench text given answer after,
      sourceProducer (Workbench.host loader) path bridge bench = (.ok text, given) →
      SourceGenerator.generate (Workbench.host loader) ⟨layout, none⟩
        (sourceProducer (Workbench.host loader) path bridge) name bench = (answer, after) →
      ((∃ written, answer = .ok written) ↔ ∃ made left,
        (Workbench.host loader).createDirectories layout.generatedDir given = (.ok (), made) ∧
          (Workbench.host loader).writeText (layout.sourcePath name.text) text made =
            (.ok (), left)) ∧
      ∀ written, answer = .ok written → written = layout.sourcePath name.text ∧
        ((∀ kind, after.entry? written ≠ some (.device kind)) →
          (Workbench.host loader).readText written after = (.ok text, after)) := by
  refine ⟨fun path state => rfl, fun path name state => rfl, fun text name => ?_,
    fun first second name other named otherNamed => ?_,
    fun layout name path bridge bench text given answer after produced generated => ?_⟩
  · exact ⟨appendBridge_eq text name, not_isOpen_append_closing text, linesOf_appendBridge text⟩
  · rw [appendBridge_eq_iff named otherNamed, append_closing_eq_iff]
  · exact SourceGenerator.generate_reads_back loader ⟨layout, none⟩ rfl produced generated

/-- The files of a machine that has an empty directory. -/
def emptyDirectory : FileTree := ⟨[(["g"], .directory)], [], 0⟩

/-- A machine that has a source as its input and takes a text into that directory. -/
theorem exists_bench_takes (source text : String) : ∃ bench left : Native.NativeBench,
    (Workbench.host Native.loader).readInput bench = (.ok source, bench) ∧
      (Workbench.host Native.loader).createDirectories "g" bench = (.ok (), bench) ∧
      (Workbench.host Native.loader).writeText "g/t1.cpp" text bench = (.ok (), left) ∧
      left.entry? "g/t1.cpp" = some (.file (toOctets text) false) := by
  let bench : Native.NativeBench :=
    { machine := { programs := System.programs [], tree := emptyDirectory }
      directory := [], searchPath := [], environment := []
      input := toOctets source, modules := {} }
  have decoded : Workbench.decode (toOctets source) = .ok source := by
    rw [Workbench.decode, ofOctets?_toOctets]
  have directory : toOctets "g" = "g" := toOctets_ascii (by simp)
  have file : toOctets "g/t1.cpp" = "g/t1.cpp" := toOctets_ascii (by simp)
  have creates : (Workbench.host Native.loader).createDirectories "g" bench = (.ok (), bench) := by
    change Workbench.alterTree (Workbench.makeDirectories [] "g") bench = _
    rw [Workbench.alterTree, Workbench.makeDirectories, directory]
    rfl
  let tree := (emptyDirectory.insert ["g", "t1.cpp"] (.file "" false)).setContent ["g", "t1.cpp"]
    (toOctets text)
  have written : emptyDirectory.write [] "g/t1.cpp" (toOctets text) = .ok tree := rfl
  have found : tree.find [] "g/t1.cpp" = .ok (["g", "t1.cpp"], .file (toOctets text) false) := rfl
  let left : Native.NativeBench := { bench with machine := { bench.machine with tree } }
  have writes : (Workbench.host Native.loader).writeText "g/t1.cpp" text bench =
      (.ok (), left) := by
    change Workbench.changeTree (fun tree => Workbench.withPath "g/t1.cpp" fun octets =>
      tree.write [] octets (toOctets text)) bench = _
    have taken : emptyDirectory.atTime bench.machine.clock = emptyDirectory := rfl
    rw [Workbench.changeTree, Workbench.withPath, if_neg (by decide), file, taken, written]
  have there : left.entry? "g/t1.cpp" = some (.file (toOctets text) false) := by
    rw [Workbench.entry?_of_ascii (by decide) (by simp), found]
    rfl
  exact ⟨bench, left, congrArg (·, bench) decoded, creates, writes, there⟩

/-- A source of one line that is not ended, read from the input of the program. -/
theorem sourceProducer_tells_source_typed :
    (∃ bench after : Native.NativeBench,
      SourceGenerator.generate (Workbench.host Native.loader) ⟨⟨"", "", "g", ""⟩, none⟩
        (sourceProducer (Workbench.host Native.loader) inputPath (some "t1")) ⟨"t1"⟩ bench =
          (.ok "g/t1.cpp", after) ∧
      (Workbench.host Native.loader).readText "g/t1.cpp" after =
        (.ok ("x\n" ++ bridgeSource "t1"), after)) ∧
    appendBridge "x" "t1" = appendBridge "x\n" "t1" ∧
    appendBridge "" "t1" ≠ appendBridge "\n" "t1" := by
  obtain ⟨-, bridged, -, same, generates⟩ :=
    sourceProducer_tells_source (Workbench.host Native.loader) Native.loader
  refine ⟨?_, (same "x" "x\n" "t1" "t1" (by decide) (by decide)).mpr (by decide), fun equal => ?_⟩
  · obtain ⟨bench, left, input, creates, writes, found⟩ :=
      exists_bench_takes "x" ("x\n" ++ bridgeSource "t1")
    have read : readSource (Workbench.host Native.loader) inputPath bench = (.ok "x", bench) := by
      rw [readSource, if_pos rfl]
      exact bind_of_eq input _
    have produced : sourceProducer (Workbench.host Native.loader) inputPath (some "t1") bench =
        (.ok ("x\n" ++ bridgeSource "t1"), bench) := by
      rw [bridged, read]
      rfl
    rcases generated : SourceGenerator.generate (Workbench.host Native.loader)
      ⟨⟨"", "", "g", ""⟩, none⟩ (sourceProducer (Workbench.host Native.loader) inputPath
        (some "t1")) ⟨"t1"⟩ bench with ⟨answer, after⟩
    obtain ⟨succeeds, holds⟩ := generates ⟨"", "", "g", ""⟩ ⟨"t1"⟩ inputPath (some "t1") bench
      _ bench answer after produced generated
    obtain ⟨path, rfl⟩ := succeeds.mpr ⟨bench, left, creates, writes⟩
    obtain ⟨rfl, holds⟩ := holds path rfl
    have unformatted := generated
    rw [SourceGenerator.generate_of_unformatted rfl produced] at unformatted
    obtain ⟨made, written, createsToo, writesToo, -, rfl⟩ :=
      SourceGenerator.write_eq_ok_iff.mp unformatted
    obtain rfl : bench = made := (Prod.mk.inj (creates.symm.trans createsToo)).2
    obtain rfl : left = written := (Prod.mk.inj (writes.symm.trans writesToo)).2
    refine ⟨bench, _, generated, holds fun kind device => ?_⟩
    cases found.symm.trans device
  · exact absurd ((same "" "\n" "t1" "t1" (by decide) (by decide)).mp equal) (by decide)

end CommandLine

end QueryFoundry
