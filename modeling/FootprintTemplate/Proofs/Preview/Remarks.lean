import FootprintTemplate.Preview.Render
import FootprintTemplate.Proofs.Lines

/-! Comments of a module, headings among them. A script is read alike with them and without them, so
that the module runs in the same way. -/
namespace FootprintTemplate.Script

open Template (Fragment)

section Plain

variable {braces : List Bool} {first second : List Char}

theorem stops_brace (rest : List Char) : Stops ('\x7d' :: rest) :=
  .cons (by decide) rest

theorem stops_quoted (text rest : List Char) : Stops (stringLiteral text ++ rest) :=
  .cons (by decide) _

theorem stops_line (rest : List Char) : Stops ('\n' :: rest) :=
  .cons (by decide) rest

theorem isSimple_number {text : String} (number : Number.isNumber text = true) :
    text.toList.all isSimple = true := by
  refine List.all_eq_true.mpr fun c member => ?_
  have own := Number.isLiteralChar_of_isNumber number c member
  have backslash : c ≠ '\\' := by
    rintro rfl
    exact absurd own (by decide)
  rw [isSimple, Writer.isNeutral_of_isLiteralChar own]
  simpa using backslash

theorem isSimple_mirrored {text : String} (number : Number.isNumber text = true) :
    (Number.mirrorChars text.toList).all isSimple = true := by
  have simple := isSimple_number number
  unfold Number.mirrorChars
  split
  · rename_i rest shape
    rw [shape] at simple
    exact simple
  · exact simple

theorem isSimple_identifier {name : List Char} (identifier : isIdentifier name = true) :
    name.all isSimple = true := by
  refine List.all_eq_true.mpr fun c member => ?_
  have part := List.all_eq_true.mp (isNamePart_of_isIdentifier identifier) c member
  have backslash : c ≠ '\\' := by
    rintro rfl
    exact absurd part (by decide)
  rw [isSimple, isNeutral_of_isNamePart part]
  simpa using backslash

theorem RunsAlike.substitution {expression : List Char} (alike : RunsAlike braces first second)
    (inside : Alike (true :: braces) ('\x7d' :: first) ('\x7d' :: second) →
      Alike (true :: braces) (expression ++ '\x7d' :: first) (expression ++ '\x7d' :: second)) :
    RunsAlike braces (Fragment.substitution expression ++ first)
      (Fragment.substitution expression ++ second) := by
  have opened := RunsAlike.openValue (inside alike.closeValue)
  simpa [Fragment.substitution] using opened

theorem Alike.strings {opening closing : List Char} (opens : opening.all isSimple = true)
    (closes : closing.all isSimple = true) (one other : List Char) (stop : Stops first)
    (stopToo : Stops second) (alike : Alike braces first second) :
    Alike braces
      (opening ++ Script.stringLiteral one ++ " : ".toList ++ Script.stringLiteral other ++ closing ++
        first)
      (opening ++ Script.stringLiteral one ++ " : ".toList ++ Script.stringLiteral other ++ closing ++
        second) := by
  have last := (alike.simple closes stop stopToo).stringLiteral other
  have between : (" : ".toList).all isSimple = true := by decide
  have both := (last.simple between (stops_quoted _ _) (stops_quoted _ _)).stringLiteral one
  have whole := both.simple opens (stops_quoted _ _) (stops_quoted _ _)
  simpa only [List.append_assoc] using whole

end Plain

end FootprintTemplate.Script

namespace FootprintTemplate.Writer

open Script (Alike RunsAlike isSimple)
open Template (Fragment)

section Pieces

variable {braces : List Bool} {first second : List Char} (netOf : String → String)

theorem alike_firm {fragment : Fragment} (firm : isFirm fragment = true)
    (alike : RunsAlike braces first second) :
    RunsAlike braces (fragment.chars netOf ++ first) (fragment.chars netOf ++ second) := by
  have stop := Script.stops_brace first
  have stopToo := Script.stops_brace second
  cases fragment with
  | source => cases firm
  | punct text =>
    simp only [isFirm, Bool.and_eq_true] at firm
    exact alike.prepend (Script.isLiteral_of_isPlain firm.2 _) (Script.isLiteral_of_isPlain firm.2 _)
  | coordinate x =>
    refine alike.substitution fun closed => closed.simple ?_ stop stopToo
    simp only [List.all_append, Script.isSimple_number firm, Script.isSimple_mirrored firm]
    decide
  | faced flipped plain =>
    exact alike.substitution
      (.strings (by decide) (by decide) flipped.toList plain.toList stop stopToo)
  | rotation delta =>
    refine alike.substitution fun closed => closed.simple ?_ stop stopToo
    cases delta with
    | none => decide
    | some text =>
      have shape : (Fragment.angle (some text)).chars =
          "(((p.r + ".toList ++ text.toList ++ ") % 360) + 360) % 360".toList := by
        simp [Fragment.angle, Template.Angle.turned, Template.Angle.chars, Template.Angle.enclosed,
          Template.Angle.isCompound, Template.Angle.fullTurn]
      rw [shape]
      simp only [List.all_append, Script.isSimple_number firm]
      decide
  | mirrorFlag mirrored =>
    refine alike.substitution fun closed => ?_
    have whole := Alike.strings (by decide : (" flip ? ".toList).all isSimple = true)
      (rfl : [].all isSimple = true) (Fragment.mirrorText !mirrored)
      (Fragment.mirrorText mirrored) stop stopToo closed
    simpa only [List.append_nil] using whole
  | net pad =>
    refine alike.substitution fun closed => ?_
    unfold Script.propertyAccess
    split
    · rename_i identifier
      refine closed.simple ?_ stop stopToo
      simp only [List.cons_append, List.nil_append, List.all_cons, Script.isSimple_identifier identifier]
      decide
    · have bracket := closed.simple (by decide : [']'].all isSimple = true) stop stopToo
      have member := bracket.stringLiteral (netOf pad).toList
      have whole := member.simple (by decide : ['p', '['].all isSimple = true) (Script.stops_quoted _ _)
        (Script.stops_quoted _ _)
      simpa using whole

theorem Guarded.alike {fragments : List Fragment} (guarded : Guarded fragments)
    (alike : RunsAlike braces ('\x60' :: first) ('\x60' :: second)) :
    RunsAlike braces (Template.chars netOf fragments ++ '\x60' :: first)
      (Template.chars netOf fragments ++ '\x60' :: second) := by
  induction guarded with
  | nil => exact alike
  | firm firm _ ih =>
    simp only [chars_cons, List.append_assoc]
    exact alike_firm netOf firm ih
  | @source _ text _ firm more ih =>
    obtain ⟨written, literal⟩ := Script.isLiteral_escapeTemplate text.toList
    simp only [chars_cons, List.append_assoc]
    exact alike_firm netOf firm
      (ih.prepend (literal _ (more.separates netOf _)) (literal _ (more.separates netOf _)))

theorem Guarded.alike_template {fragments : List Fragment} (guarded : Guarded fragments)
    (alike : Alike braces ('\n' :: first) ('\n' :: second)) :
    Alike braces
      ('\x60' :: (Template.chars netOf fragments ++ '\x60' :: (");".toList ++ '\n' :: first)))
      ('\x60' :: (Template.chars netOf fragments ++ '\x60' :: (");".toList ++ '\n' :: second))) := by
  have ending := alike.simple (by decide : (");".toList).all isSimple = true)
    (Script.stops_line first) (Script.stops_line second)
  exact Alike.template (guarded.alike netOf (.close ending))

theorem call_append (fragments : List Fragment) (rest : List Char) :
    Statement.call netOf fragments ++ rest = "fp.push(".toList ++
      '\x60' :: (Template.chars netOf fragments ++ '\x60' :: (");".toList ++ rest)) := by
  rw [Statement.call_eq_template]
  simp only [List.append_assoc, List.cons_append]

theorem stops_template (rest : List Char) : Script.Stops ('\x60' :: rest) :=
  .cons (by decide) rest

theorem Guarded.alike_call {fragments : List Fragment} (guarded : Guarded fragments)
    (alike : Alike braces ('\n' :: first) ('\n' :: second)) :
    Alike braces (Statement.call netOf fragments ++ '\n' :: first)
      (Statement.call netOf fragments ++ '\n' :: second) := by
  rw [call_append, call_append]
  exact (guarded.alike_template netOf alike).simple (by decide) (stops_template _) (stops_template _)

end Pieces

end FootprintTemplate.Writer

namespace FootprintTemplate

open FootprintTemplate.Module (dropTrailing)
open Script (Alike Stops skipGap splitLines)
open Writer (Guarded)

section Trimming

theorem dropTrailing_append_eq (c : Char) (first second : List Char) :
    dropTrailing c (first ++ second) =
      if (dropTrailing c second).isEmpty then dropTrailing c first
      else first ++ dropTrailing c second := by
  simp only [dropTrailing, List.reverse_append, List.dropWhile_append, List.isEmpty_reverse]
  split <;> simp

theorem dropTrailing_cons (c d : Char) (text : List Char) :
    dropTrailing c (d :: text) = if (dropTrailing c text).isEmpty && d == c then []
      else d :: dropTrailing c text := by
  have split := dropTrailing_append_eq c [d] text
  rw [List.singleton_append] at split
  rw [split]
  cases shape : dropTrailing c text with
  | cons => rfl
  | nil =>
    cases same : d == c with
    | true => simp [dropTrailing, same]
    | false => simp [dropTrailing, same]

/-- A line end and the text, without the line ends at its end, before a line with this text. -/
def trimmed (tail text : List Char) : List Char :=
  dropTrailing '\n' ('\n' :: text) ++ '\n' :: tail

theorem exists_trimmed (tail text : List Char) : ∃ rest, trimmed tail text = '\n' :: rest := by
  rw [trimmed, dropTrailing_cons]
  split
  · exact ⟨_, rfl⟩
  · exact ⟨_, rfl⟩

theorem trimmed_line {line : List Char} (filled : line ≠ []) (ends : line.getLast? ≠ some '\n')
    (tail text : List Char) :
    trimmed tail (line ++ '\n' :: text) = '\n' :: (line ++ trimmed tail text) := by
  have whole := dropTrailing_append ends ('\n' :: text)
  have stays : (dropTrailing '\n' (line ++ '\n' :: text)).isEmpty = false := by
    rw [whole]
    simpa using fun none => absurd none filled
  rw [trimmed, dropTrailing_cons, stays, whole, trimmed]
  simp

theorem trimmed_feed (tail text : List Char) :
    trimmed tail ('\n' :: text) = trimmed tail text ∨
      trimmed tail ('\n' :: text) = '\n' :: trimmed tail text := by
  rw [trimmed, trimmed, dropTrailing_cons '\n' '\n' ('\n' :: text)]
  split
  · rename_i blank
    rw [Bool.and_eq_true, List.isEmpty_iff] at blank
    exact .inl (by rw [blank.1])
  · exact .inr rfl

theorem alike_feed (braces : List Bool) (tail text : List Char) :
    Alike braces (trimmed tail ('\n' :: text)) (trimmed tail text) := by
  obtain same | further := trimmed_feed tail text
  · rw [same]
    exact .refl braces _
  · obtain ⟨rest, shape⟩ := exists_trimmed tail text
    rw [further, shape]
    exact .of_gaps fun _ => rfl

/-- Before a line end, the text leaves scripts alike. -/
def KeepsAlike (braces : List Bool) (line : List Char) : Prop :=
  ∀ first second, Alike braces ('\n' :: first) ('\n' :: second) →
    Alike braces (line ++ '\n' :: first) (line ++ '\n' :: second)

variable {braces : List Bool} {tail first second : List Char}

theorem alike_line {line : List Char} (filled : line ≠ []) (ends : line.getLast? ≠ some '\n')
    (keeps : KeepsAlike braces line)
    (alike : Alike braces (trimmed tail first) (trimmed tail second)) :
    Alike braces (trimmed tail (line ++ '\n' :: first)) (trimmed tail (line ++ '\n' :: second)) := by
  rw [trimmed_line filled ends, trimmed_line filled ends]
  obtain ⟨rest, shape⟩ := exists_trimmed tail first
  obtain ⟨more, shapeToo⟩ := exists_trimmed tail second
  rw [shape, shapeToo] at alike ⊢
  exact fun count => (keeps rest more alike count).blank (by decide) (.inl rfl)

theorem skipGap_remark {inside : Bool} {text : List Char} (remark : Script.IsRemark inside text)
    (crossed : Bool) (rest : List Char) :
    skipGap (if inside then .lineComment else .blank) crossed (text ++ '\n' :: rest) =
      skipGap .blank true rest := by
  induction remark generalizing crossed with
  | @nil inside => cases inside <;> rfl
  | opens _ ih => exact ih crossed
  | @goesOn c text inside _ ih =>
    have passes : skipGap .lineComment crossed (c :: (text ++ '\n' :: rest)) =
        skipGap .lineComment crossed (text ++ '\n' :: rest) := by simp [skipGap, inside]
    exact passes.trans (ih crossed)
  | @ends c text lineEnd _ ih =>
    have leaves : skipGap .lineComment crossed (c :: (text ++ '\n' :: rest)) =
        skipGap .blank true (text ++ '\n' :: rest) := by simp [skipGap, lineEnd]
    exact leaves.trans (ih true)

/-- Comments are skipped like a line end. -/
theorem alike_remark (braces : List Bool) (tail : List Char) {text : List Char}
    (remark : Script.IsRemark false text) (ends : text.getLast? ≠ some '\n') (rest : List Char) :
    Alike braces (trimmed tail (text ++ '\n' :: rest)) (trimmed tail rest) := by
  by_cases blank : text = []
  · rw [blank]
    exact alike_feed braces tail rest
  · obtain ⟨more, start⟩ := exists_trimmed tail rest
    rw [trimmed_line blank ends, start]
    exact .of_gaps fun crossed => skipGap_remark remark true more

/-- Rows are read like their lines of code. -/
theorem alike_rows {rows : List Row} (sound : ∀ row ∈ rows, row.Sound)
    (keeps : ∀ line ∈ codeOf rows, KeepsAlike braces line)
    (alike : Alike braces (trimmed tail first) (trimmed tail second)) :
    Alike braces (trimmed tail (joined rows ++ first))
      (trimmed tail (ended (codeOf rows) ++ second)) := by
  induction rows with
  | nil => exact alike
  | cons row rest ih =>
    obtain ⟨own, others⟩ := List.forall_mem_cons.mp sound
    have split : joined (row :: rest) ++ first = row.text ++ '\n' :: (joined rest ++ first) := by
      simp [joined]
    rw [split]
    cases isCode : row.isCode with
    | true =>
      have lines : codeOf (row :: rest) = row.text :: codeOf rest := by simp [codeOf, isCode]
      rw [lines] at keeps ⊢
      obtain ⟨keepsOwn, keepsOthers⟩ := List.forall_mem_cons.mp keeps
      have whole := alike_line (own.code isCode).2 own.ends keepsOwn (ih others keepsOthers)
      simpa [ended_cons] using whole
    | false =>
      have lines : codeOf (row :: rest) = codeOf rest := by simp [codeOf, isCode]
      rw [lines] at keeps ⊢
      exact (alike_remark braces tail (own.comment isCode) own.ends _).trans (ih others keeps)

end Trimming

section Modules

variable {braces : List Bool} {tail first second : List Char} (netOf : String → String)

theorem call_ne_nil (fragments : List Template.Fragment) : Statement.call netOf fragments ≠ [] := by
  rw [Statement.call_eq_template]
  exact List.append_ne_nil_of_right_ne_nil _ (List.cons_ne_nil _ _)

theorem getLast?_call (fragments : List Template.Fragment) :
    (Statement.call netOf fragments).getLast? = some ';' := by
  rw [call_eq, List.getLast?_concat]

/-- What follows the header in the body of a module. -/
def Module.afterHeader (m : Module) : List Char :=
  placeRow ++ '\n' :: (m.layer.toList.flatMap (Statement.code netOf) ++
    m.sections.flatMap (Section.code netOf))

/-- The statements that a module runs. -/
def Module.enabled (m : Module) : List Statement :=
  m.statements.filter (!·.disabled)

theorem isOneLine_of_splitLines {text : List Char} {c : Char}
    (one : splitLines (text ++ [c]) = [text ++ [c]]) : Script.isOneLine text = true := by
  induction text with
  | nil => rfl
  | cons d rest ih =>
    have whole := Script.flatten_splitLines (rest ++ [c])
    rw [List.cons_append, splitLines] at one
    split at one
    · rw [(List.cons.inj one).2] at whole
      exact absurd whole.symm (List.append_ne_nil_of_right_ne_nil _ (List.cons_ne_nil _ _))
    · rename_i inside
      split at one
      · rename_i none
        rw [none] at whole
        exact absurd whole.symm (List.append_ne_nil_of_right_ne_nil _ (List.cons_ne_nil _ _))
      · rename_i line lines shape
        obtain ⟨first, others⟩ := List.cons.inj one
        rw [(List.cons.inj first).2, others] at shape
        rw [Script.isOneLine, List.all_cons, Bool.and_eq_true]
        exact ⟨by simpa using inside, ih shape⟩

/-- A heading is comments alone, also where a line end is the last of its label. -/
theorem exists_headingRows {label : String}
    (enclosed : ((splitLines label.toList).drop 1).flatten = []) :
    ∃ rows, (∀ row ∈ rows, row.Sound) ∧ joined rows = Section.heading label ∧ codeOf rows = [] := by
  by_cases blank : label = ""
  · subst blank
    exact ⟨[], nofun, rfl, rfl⟩
  have heading : Section.heading label = "// ".toList ++ label.toList ++ ['\n'] := by
    rw [Section.heading, if_neg (by simpa using blank)]
  have one : splitLines label.toList = [label.toList] := by
    have whole := Script.flatten_splitLines label.toList
    cases lines : splitLines label.toList with
    | nil =>
      rw [lines] at whole
      exact absurd (String.toList_eq_nil_iff.mp whole.symm) blank
    | cons line rest =>
      rw [lines] at whole enclosed
      have none : rest.flatten = [] := enclosed
      rw [List.flatten_cons, none, List.append_nil] at whole
      have empty : rest = [] := by
        cases rest with
        | nil => rfl
        | cons own others =>
          have inside : own ∈ Script.splitLines label.toList := by rw [lines]; simp
          have filled : own ≠ [] := Script.ne_nil_of_mem_splitLines inside
          exact absurd (List.append_eq_nil_iff.mp none).1 filled
      rw [whole, empty]
  have remark : Script.IsRemark false ("// ".toList ++ label.toList) := by
    have comment := Script.isRemark_commentLines label.toList
    rw [one] at comment
    simpa [Script.commentLine] using comment
  by_cases feed : label.toList.getLast? = some '\n'
  · obtain ⟨text, shape⟩ := List.getLast?_eq_some_iff.mp feed
    rw [shape] at one heading
    have oneLine := isOneLine_of_splitLines one
    refine ⟨[.comment ("// ".toList ++ text), .comment []], ?_, ?_, rfl⟩
    · have spaced : Script.isOneLine (' ' :: text) = true := oneLine
      refine List.forall_mem_cons.mpr ⟨?_, List.forall_mem_singleton.mpr Row.sound_blank⟩
      exact Row.sound_comment (Script.isRemark_comment spaced) (getLast?_ne_of_isOneLine oneLine)
    · rw [heading, joined_cons, joined_cons]
      simp [Row.comment, joined]
  · refine ⟨[.comment ("// ".toList ++ label.toList)], ?_, ?_, rfl⟩
    · refine List.forall_mem_singleton.mpr (Row.sound_comment remark ?_)
      rwa [List.getLast?_append_of_ne_nil _ (by simpa using blank)]
    · rw [heading, joined_cons]
      exact List.append_nil _

theorem exists_sectionRows {part : Section} (enclosed : part.overflow.isEmpty = true)
    (guarded : ∀ statement ∈ part.statements, Guarded statement.fragments) :
    ∃ rows, (∀ row ∈ rows, row.Sound) ∧ joined rows = part.code netOf ∧
      codeOf rows = codeOf (part.statements.map (statementRow netOf)) := by
  obtain ⟨rows, sound, text, code⟩ := exists_headingRows (List.isEmpty_iff.mp enclosed)
  refine ⟨.comment [] :: (rows ++ part.statements.map (statementRow netOf)), ?_, ?_, ?_⟩
  · refine List.forall_mem_cons.mpr ⟨Row.sound_blank, List.forall_mem_append.mpr ⟨sound, ?_⟩⟩
    exact List.forall_mem_map.mpr fun statement written =>
      sound_statementRow netOf (guarded statement written)
  · rw [joined_cons, joined_append, text, joined_statementRows]
    rfl
  · have split : codeOf (.comment [] :: (rows ++ part.statements.map (statementRow netOf))) =
        codeOf (rows ++ part.statements.map (statementRow netOf)) := rfl
    rw [split, codeOf_append, code, List.nil_append]

theorem exists_rows {parts : List Section} (enclosed : parts.all (·.overflow.isEmpty) = true)
    (guarded : ∀ part ∈ parts, ∀ statement ∈ part.statements, Guarded statement.fragments) :
    ∃ rows, (∀ row ∈ rows, row.Sound) ∧ joined rows = parts.flatMap (Section.code netOf) ∧
      codeOf rows = codeOf ((parts.flatMap Section.statements).map (statementRow netOf)) := by
  induction parts with
  | nil => exact ⟨[], nofun, rfl, rfl⟩
  | cons part rest ih =>
    rw [List.all_cons, Bool.and_eq_true] at enclosed
    obtain ⟨first, others⟩ := List.forall_mem_cons.mp guarded
    obtain ⟨own, sound, text, code⟩ := exists_sectionRows netOf enclosed.1 first
    obtain ⟨rows, soundToo, textToo, codeToo⟩ := ih enclosed.2 others
    refine ⟨own ++ rows, List.forall_mem_append.mpr ⟨sound, soundToo⟩, ?_, ?_⟩
    · rw [joined_append, text, textToo, List.flatMap_cons]
    · rw [codeOf_append, code, codeToo, List.flatMap_cons, List.map_append, codeOf_append]

/-- Lines after a line end, before a further one. -/
def onLines (lines : List (List Char)) (tail : List Char) : List Char :=
  lines.flatMap ('\n' :: ·) ++ '\n' :: tail

theorem trimmed_ended {lines : List (List Char)}
    (filled : ∀ line ∈ lines, line ≠ [] ∧ line.getLast? ≠ some '\n') (tail : List Char) :
    trimmed tail (ended lines) = onLines lines tail := by
  induction lines with
  | nil => rfl
  | cons line rest ih =>
    obtain ⟨own, others⟩ := List.forall_mem_cons.mp filled
    rw [ended_cons, trimmed_line own.1 own.2, ih others, onLines, onLines, List.flatMap_cons]
    simp only [List.append_assoc, List.cons_append]

/-- The lines that a module adds after its header. -/
def addedLines (netOf : String → String) (m : Module) : List (List Char) :=
  placeRow :: m.enabled.map fun statement => Statement.call netOf statement.fragments

theorem exists_laterRows {m : Module} (enclosed : m.isEnclosed = true)
    (guarded : ∀ statement ∈ m.statements, Guarded statement.fragments) :
    ∃ rows, (∀ row ∈ rows, row.Sound) ∧ joined rows = m.afterHeader netOf ∧
      codeOf rows = addedLines netOf m := by
  obtain ⟨layer, sections⟩ := List.forall_mem_append.mp guarded
  have each : ∀ part ∈ m.sections, ∀ statement ∈ part.statements, Guarded statement.fragments :=
    fun part own statement written =>
      sections statement (List.mem_flatMap.mpr ⟨part, own, written⟩)
  obtain ⟨rows, sound, text, code⟩ := exists_rows netOf enclosed each
  refine ⟨.code placeRow :: (m.layer.toList.map (statementRow netOf) ++ rows), ?_, ?_, ?_⟩
  · refine List.forall_mem_cons.mpr ⟨sound_placeRow, List.forall_mem_append.mpr ⟨?_, sound⟩⟩
    exact List.forall_mem_map.mpr fun statement written =>
      sound_statementRow netOf (layer statement written)
  · rw [joined_cons, joined_append, joined_statementRows, text, Module.afterHeader,
      List.append_assoc]
    rfl
  · rw [codeOf_cons_code, codeOf_append, code, ← codeOf_append, ← List.map_append,
      codeOf_statementRows]
    rfl

theorem keepsAlike_addedLines {m : Module}
    (guarded : ∀ statement ∈ m.statements, Guarded statement.fragments) :
    ∀ line ∈ addedLines netOf m, KeepsAlike braces line := by
  refine List.forall_mem_cons.mpr ⟨fun first second alike => ?_, fun line member => ?_⟩
  · exact alike.simple (by decide) (Script.stops_line first) (Script.stops_line second)
  · obtain ⟨statement, written, rfl⟩ := List.mem_map.mp member
    exact fun _ _ => (guarded statement (List.mem_filter.mp written).1).alike_call netOf

/-- What follows the header is read like the lines that the module adds. -/
theorem alike_lines {m : Module} (enclosed : m.isEnclosed = true)
    (guarded : ∀ statement ∈ m.statements, Guarded statement.fragments)
    (alike : Alike braces (trimmed tail first) (trimmed tail second)) :
    Alike braces (trimmed tail (m.afterHeader netOf ++ first))
      (trimmed tail (ended (addedLines netOf m) ++ second)) := by
  obtain ⟨rows, sound, text, lines⟩ := exists_laterRows netOf enclosed guarded
  rw [← text, ← lines]
  exact alike_rows sound (lines ▸ keepsAlike_addedLines netOf guarded) alike

/-- Modules with the same enabled statements go on alike after their headers. -/
theorem alike_afterHeader {m n : Module} (enclosed : m.isEnclosed = true)
    (enclosedToo : n.isEnclosed = true)
    (guarded : ∀ statement ∈ m.statements, Guarded statement.fragments)
    (guardedToo : ∀ statement ∈ n.statements, Guarded statement.fragments)
    (same : m.enabled = n.enabled)
    (alike : Alike braces (trimmed tail first) (trimmed tail second)) :
    Alike braces (trimmed tail (m.afterHeader netOf ++ first))
      (trimmed tail (n.afterHeader netOf ++ second)) := by
  have one := alike_lines netOf enclosed guarded alike
  have other := alike_lines netOf enclosedToo guardedToo (.refl braces (trimmed tail second))
  rw [addedLines, same] at one
  exact one.trans other.symm

/-- A script goes on after the header as if the module held these lines alone. -/
theorem alike_addedLines {m : Module} (enclosed : m.isEnclosed = true)
    (guarded : ∀ statement ∈ m.statements, Guarded statement.fragments) (braces : List Bool)
    (tail : List Char) :
    Alike braces (trimmed tail (m.afterHeader netOf)) (onLines (addedLines netOf m) tail) := by
  have alike := alike_lines netOf enclosed guarded (.refl braces (trimmed tail []))
  rw [List.append_nil, List.append_nil, trimmed_ended] at alike
  · exact alike
  · refine List.forall_mem_cons.mpr ⟨by decide, fun line member => ?_⟩
    obtain ⟨statement, -, rfl⟩ := List.mem_map.mp member
    refine ⟨call_ne_nil netOf _, ?_⟩
    rw [getLast?_call]
    decide

theorem bracesAfter_simple {plain : List Char} (simple : plain.all Script.isSimple = true)
    (braces : List Bool) (text : List Char) :
    Script.bracesAfter none braces (plain ++ text) = Script.bracesAfter none braces text := by
  induction plain with
  | nil => rfl
  | cons c rest ih =>
    rw [List.all_cons, Bool.and_eq_true] at simple
    rw [List.cons_append, Script.bracesAfter, if_pos simple.1, ih simple.2]

/-- The name of a member, in a line of its own, and code after it. -/
theorem alike_key (net : List Char) {code : List Char} {inner : List Bool}
    (alike : Alike inner first second) (stop : Stops first) (stopToo : Stops second)
    (known : Script.bracesAfter none braces code = some inner) :
    Alike braces ('\n' :: ("    ".toList ++ (Script.propertyKey net ++ (code ++ first))))
      ('\n' :: ("    ".toList ++ (Script.propertyKey net ++ (code ++ second)))) := by
  have indent : ('\n' :: "    ".toList).all Script.isSimple = true := by decide
  unfold Script.propertyKey
  split
  · rename_i identifier
    have simple : ('\n' :: "    ".toList ++ net).all Script.isSimple = true := by
      rw [List.all_append, indent, Script.isSimple_identifier identifier]
      rfl
    have whole := alike.code stop stopToo ((bracesAfter_simple simple braces code).trans known)
    simpa only [List.append_assoc, List.cons_append] using whole
  · have member := (alike.code stop stopToo known).stringLiteral net
    exact member.simple indent (Script.stops_quoted _ _) (Script.stops_quoted _ _)

/-- The text of a default that a net is declared with. -/
def IsDefault (default : List Char) : Prop :=
  default = "null".toList ∨ ∃ text, default = Script.stringLiteral text

theorem isDefault_defaultChars (defaults : List (String × String)) (net : String) :
    IsDefault (Preview.defaultChars defaults net) := by
  unfold Preview.defaultChars
  split
  · exact .inr ⟨_, rfl⟩
  · exact .inl rfl

theorem declaration_append (net : String) (default rest : List Char) :
    Module.declaration net default ++ rest = "    ".toList ++ (Script.propertyKey net.toList ++
      (": \x7b type: 'net', value: ".toList ++ (default ++ (" \x7d,".toList ++ '\n' :: rest)))) := by
  have pieces {first second third fourth all : List Char} (feed : all = fourth ++ ['\n']) :
      first ++ second ++ third ++ default ++ all ++ rest =
        first ++ (second ++ (third ++ (default ++ (fourth ++ '\n' :: rest)))) := by
    rw [feed]
    simp only [List.append_assoc, List.singleton_append]
  exact pieces (by decide)

theorem alike_declaration (net : String) {default : List Char} (isDefault : IsDefault default)
    (alike : Alike [false, false] ('\n' :: first) ('\n' :: second)) :
    Alike [false, false] ('\n' :: (Module.declaration net default ++ first))
      ('\n' :: (Module.declaration net default ++ second)) := by
  rw [declaration_append, declaration_append]
  obtain rfl | ⟨text, rfl⟩ := isDefault
  · have whole := alike_key net.toList alike (Script.stops_line first) (Script.stops_line second)
      (by decide : Script.bracesAfter none [false, false]
        (": \x7b type: 'net', value: ".toList ++ ("null".toList ++ " \x7d,".toList)) =
          some [false, false])
    simpa only [List.append_assoc] using whole
  · have ending := alike.code (Script.stops_line first) (Script.stops_line second)
      (by decide : Script.bracesAfter none [false, false, false] " \x7d,".toList =
        some [false, false])
    exact alike_key net.toList (ending.stringLiteral text) (Script.stops_quoted _ _)
      (Script.stops_quoted _ _) (by decide)

theorem alike_declarations {default : String → List Char} (known : ∀ net, IsDefault (default net))
    (nets : List String) (alike : Alike [false, false] ('\n' :: first) ('\n' :: second)) :
    Alike [false, false]
      ('\n' :: (nets.flatMap (fun net => Module.declaration net (default net)) ++ first))
      ('\n' :: (nets.flatMap (fun net => Module.declaration net (default net)) ++ second)) := by
  induction nets with
  | nil => exact alike
  | cons net rest ih =>
    simp only [List.flatMap_cons, List.append_assoc]
    exact alike_declaration net (known net) ih

/-- What a body leaves behind before a further line. -/
theorem trimmed_body (m : Module) (tail : List Char) :
    dropTrailing '\n' (m.body netOf) ++ '\n' :: tail =
      Module.flipLine m.side ++ Module.sideLine m.side ++ Statement.call netOf m.header ++
        trimmed tail (m.afterHeader netOf) := by
  have ends : (Module.flipLine m.side ++ Module.sideLine m.side ++
      Statement.call netOf m.header).getLast? ≠ some '\n' := by
    rw [List.getLast?_append_of_ne_nil _ (call_ne_nil netOf _), getLast?_call]
    decide
  have whole := dropTrailing_append ends ('\n' :: m.afterHeader netOf)
  rw [trimmed, ← List.append_assoc, ← whole, Module.afterHeader, Module.body, placeLine_eq]
  simp only [List.append_assoc, List.cons_append, List.nil_append]

/-- What a script has before a module. -/
def wrapping : List Char :=
  "globalThis.module = \x7b exports: \x7b\x7d \x7d; globalThis.exports = module.exports;\n".toList

/-- Modules that declare the same and add the same lines, and that scripts go on alike with after
their headers. -/
structure Module.IsLike (m n : Module) : Prop where
  designator : m.designator = n.designator
  side : m.side = n.side
  nets : m.nets = n.nets
  header : m.header = n.header
  guarded : Guarded m.header
  enclosed : m.isEnclosed = n.isEnclosed
  statements : m.statements.filter (!·.disabled) = n.statements.filter (!·.disabled)
  goesOn : ∀ tail, Alike [false, false] (trimmed tail (m.afterHeader netOf))
    (trimmed tail (n.afterHeader netOf))

variable {m n : Module}

theorem Module.IsLike.frontLines (like : m.IsLike netOf n) : frontLines m = frontLines n := by
  rw [FootprintTemplate.frontLines, FootprintTemplate.frontLines, like.designator, like.side,
    like.nets]

theorem Module.IsLike.closingLines (like : m.IsLike netOf n) :
    closingLines netOf m = closingLines netOf n := by
  rw [FootprintTemplate.closingLines, FootprintTemplate.closingLines, like.side, like.header,
    like.statements]

theorem Module.IsLike.closing (like : m.IsLike netOf n) (last : List Char) :
    Alike [false, false] ('\n' :: (m.closing netOf ++ last))
      ('\n' :: (n.closing netOf ++ last)) := by
  obtain ⟨tail, shape⟩ : ∃ tail, ∀ m : Module, m.closing netOf ++ last =
      "  \x7d,\n  body: p => \x7b\n".toList ++ ("    const fp = [];\n    ".toList ++
        (dropTrailing '\n' (m.body netOf) ++ '\n' :: tail)) := by
    have pieces (first second third fourth fifth : List Char) :
        first ++ (second ++ third ++ '\n' :: fourth) ++ fifth ++ last =
          first ++ (second ++ (third ++ '\n' :: (fourth ++ (fifth ++ last)))) := by
      simp only [List.append_assoc, List.cons_append]
    exact ⟨_, fun m => pieces _ _ _ _ _⟩
  have opening (side : Side) : Script.bracesAfter none [false, false]
      ('\n' :: ("  \x7d,\n  body: p => \x7b\n".toList ++ ("    const fp = [];\n    ".toList ++
        (Module.flipLine side ++ (Module.sideLine side ++ "fp.push(".toList))))) =
          some [false, false] := by
    cases side <;> decide +kernel
  have goesOn := like.goesOn tail
  obtain ⟨rest, start⟩ := exists_trimmed tail (m.afterHeader netOf)
  obtain ⟨more, startToo⟩ := exists_trimmed tail (n.afterHeader netOf)
  rw [start, startToo] at goesOn
  have template := like.guarded.alike_template netOf goesOn
  have whole := template.code (Writer.stops_template _) (Writer.stops_template _) (opening m.side)
  rw [shape, shape, trimmed_body, trimmed_body, ← like.side, ← like.header, start, startToo]
  simpa only [List.append_assoc, List.cons_append, Writer.call_append] using whole

/-- The text that a module has before its designator. -/
def beforeDesignator : List Char :=
  "module.exports = \x7b\n  params: \x7b\n    designator: ".toList

/-- The text between the designator and the nets, but for its last line end. -/
def sideMember (side : Side) : List Char :=
  ",\n    side: '".toList ++ (side.letter.toList ++ "',".toList)

theorem opening_append (m : Module) (rest : List Char) :
    m.opening ++ rest = beforeDesignator ++
      (Script.singleQuoted m.designator.toList ++ (sideMember m.side ++ '\n' :: rest)) := by
  have pieces {first name side letter quote all : List Char} (feed : all = quote ++ ['\n']) :
      first ++ name ++ side ++ letter ++ all ++ rest =
        first ++ (name ++ (side ++ (letter ++ quote) ++ '\n' :: rest)) := by
    rw [feed]
    simp only [List.append_assoc, List.singleton_append]
  have feed : "',\n".toList = "',".toList ++ ['\n'] := by decide
  exact pieces feed

theorem wrapping_opening (m : Module) (rest : List Char) :
    wrapping ++ (m.opening ++ rest) = (wrapping ++ beforeDesignator) ++
      (Script.singleQuoted m.designator.toList ++ (sideMember m.side ++ '\n' :: rest)) := by
  rw [opening_append, List.append_assoc]

theorem bracesAfter_beforeDesignator :
    Script.bracesAfter none [] (wrapping ++ beforeDesignator) = some [false, false] := by
  decide

/-- The designator may be no literal; then neither script is read further. -/
theorem alike_opening (m : Module)
    (alike : Alike [false, false] ('\n' :: first) ('\n' :: second)) :
    Alike [] (wrapping ++ (m.opening ++ first)) (wrapping ++ (m.opening ++ second)) := by
  have known (side : Side) :
      Script.bracesAfter none [false, false] (sideMember side) = some [false, false] := by
    cases side <;> decide +kernel
  have sided := alike.code (Script.stops_line first) (Script.stops_line second) (known m.side)
  have named := sided.singleQuoted m.designator.toList
  have quote (rest : List Char) :
      Stops (Script.singleQuoted m.designator.toList ++ rest) := .cons (by decide) _
  rw [wrapping_opening, wrapping_opening]
  exact named.code (quote _) (quote _) bracesAfter_beforeDesignator

theorem toList_wrapped (m : Module) (netOf : String → String) (default : String → List Char) :
    (Preview.Session.wrapped (m.codeWith netOf default)).toList = wrapping ++ (m.opening ++
      (m.nets.flatMap (fun net => Module.declaration net (default net)) ++
        (m.closing netOf ++ "\nmodule.exports;".toList))) := by
  have around (first second third : String) : (first ++ second ++ third).toList =
      first.toList ++ (second.toList ++ third.toList) := by
    rw [String.toList_append, String.toList_append, List.append_assoc]
  refine (around _ _ _).trans (congrArg (wrapping ++ ·) ?_)
  rw [toList_codeWith]
  simp only [List.append_assoc]

theorem Module.IsLike.load (like : m.IsLike netOf n) {default : String → List Char}
    (known : ∀ net, IsDefault (default net)) :
    Preview.Session.load (m.codeWith netOf default) =
      Preview.Session.load (n.codeWith netOf default) := by
  have alike := alike_opening m (alike_declarations known m.nets
    (like.closing netOf "\nmodule.exports;".toList))
  have opening : m.opening = n.opening := by
    exact congrArg₂ (fun designator side => Module.opening ⟨designator, side, [], [], none, []⟩)
      like.designator like.side
  have same : Script.parse (Preview.Session.wrapped (m.codeWith netOf default)).toList =
      Script.parse (Preview.Session.wrapped (n.codeWith netOf default)).toList := by
    rw [toList_wrapped, toList_wrapped, ← opening, ← like.nets]
    exact Script.parse_congr alike
  unfold Preview.Session.load
  rw [same]

/-- Modules that declare the same and write the same lines under headings of one line. -/
theorem isLike_of_isReadable (readable : m.IsReadable) (readableToo : n.IsReadable)
    (designator : m.designator = n.designator) (side : m.side = n.side) (nets : m.nets = n.nets)
    (header : m.header = n.header)
    (statements : m.statements.filter (!·.disabled) = n.statements.filter (!·.disabled)) :
    m.IsLike netOf n where
  designator
  side
  nets
  header
  guarded := readable.header
  enclosed := by
    rw [isEnclosed_of_isOneLine readable.oneLine, isEnclosed_of_isOneLine readableToo.oneLine]
  statements
  goesOn tail := by
    have alike := alike_afterHeader netOf (isEnclosed_of_isOneLine readable.oneLine)
      (isEnclosed_of_isOneLine readableToo.oneLine) readable.guarded readableToo.guarded statements
      (.refl [false, false] (trimmed tail []))
    rwa [List.append_nil, List.append_nil] at alike

/-- The module with these sections, and between them a heading with nothing under it. -/
def Module.withHeading (m : Module) (front back : List Section) : Module :=
  { m with sections := front ++ ⟨GroupKind.unknown.label, []⟩ :: back }

def Module.withoutHeading (m : Module) (front back : List Section) : Module :=
  { m with sections := front ++ back }

theorem isLike_withHeading {front : List Section}
    (readable : Module.IsReadable { m with sections := front }) (back : List Section) :
    (m.withHeading front back).IsLike netOf (m.withoutHeading front back) where
  designator := rfl
  side := rfl
  nets := rfl
  header := rfl
  guarded := readable.header
  enclosed := by
    have own : (Section.mk GroupKind.unknown.label []).overflow.isEmpty = true := by decide
    simp only [Module.isEnclosed, Module.withHeading, Module.withoutHeading, List.all_append,
      List.all_cons, own, Bool.true_and]
  statements := by
    simp only [Module.statements, Module.withHeading, Module.withoutHeading, List.flatMap_append,
      List.flatMap_cons, List.nil_append]
  goesOn tail := by
    have split (parts : List Section) :
        Module.afterHeader netOf { m with sections := parts ++ back } =
          Module.afterHeader netOf { m with sections := parts } ++
            back.flatMap (Section.code netOf) := by
      simp only [Module.afterHeader, List.flatMap_append, List.append_assoc, List.cons_append]
    have headed : front ++ ⟨GroupKind.unknown.label, []⟩ :: back =
        front ++ [⟨GroupKind.unknown.label, []⟩] ++ back := by simp
    rw [Module.withHeading, Module.withoutHeading, headed, split, split]
    refine alike_afterHeader netOf (isEnclosed_of_isOneLine ?_)
      (isEnclosed_of_isOneLine readable.oneLine) ?_ readable.guarded ?_ (.refl _ _)
    · exact List.forall_mem_append.mpr ⟨readable.oneLine, List.forall_mem_singleton.mpr (by decide)⟩
    · simpa [Module.statements] using readable.guarded
    · simp [Module.enabled, Module.statements]

end Modules

end FootprintTemplate

namespace FootprintTemplate.Preview

section Renders

/-- Modules that run as the same script give the same texts. -/
theorem renderAll_session (first second : Conversion) (params : List (String × Param))
    (session : Session) (placements : List Placement) :
    renderAll ⟨first, params, some session⟩ placements =
      renderAll ⟨second, params, some session⟩ placements := by
  induction placements generalizing session with
  | nil => rfl
  | cons placement rest ih =>
    rw [renderAll, renderAll]
    exact congrArg (_ :: ·) (ih _)

theorem renderAll_filled {first second : Loaded} (noSession : first.session = none)
    (noSessionToo : second.session = none)
    (same : ∀ placement, fillIn first placement = fillIn second placement)
    (placements : List Placement) :
    renderAll first placements = renderAll second placements := by
  induction placements with
  | nil => rfl
  | cons placement rest ih =>
    simp only [renderAll, place, noSession, noSessionToo, same, ih]

variable {m n : Module}

theorem all_isScript_enabled (statements : List Statement) :
    (statements.filter (!·.disabled)).all Statement.isScript =
      statements.all Statement.isScript := by
  rw [List.all_filter]
  refine congrArg statements.all (funext fun statement => ?_)
  cases disabled : statement.disabled <;> simp [Statement.isScript, disabled]

theorem lines_enabled (filling : Template.Filling) (statements : List Statement) :
    (statements.filter (!·.disabled)).flatMap (Statement.lines filling) =
      statements.flatMap (Statement.lines filling) := by
  refine flatMap_filter (fun _ _ _ => rfl) fun statement _ disabled => ?_
  rw [Statement.lines, if_pos (by simpa using disabled)]

theorem isScript_like {netOf : String → String} (like : m.IsLike netOf n) :
    m.isScript = n.isScript := by
  rw [Module.isScript, Module.isScript, ← all_isScript_enabled m.statements,
    ← all_isScript_enabled n.statements, like.designator, like.header, like.statements]

theorem fillIn_like {namer : NetNamer} (like : m.IsLike namer.netOf n)
    (params : List (String × Param)) (placement : Placement) :
    fillIn { conversion := ⟨m, namer⟩, params } placement =
      fillIn { conversion := ⟨n, namer⟩, params } placement := by
  have filled (place : List Char) (filling : Template.Filling) :
      m.fill place filling = n.fill place filling := by
    rw [Module.fill, Module.fill, ← lines_enabled filling m.statements,
      ← lines_enabled filling n.statements, like.header, like.statements]
  simp only [fillIn, filled, like.side]
  rfl

theorem map_loadScript (conversion : Conversion) (defaults : List (String × String))
    (placements : List Placement) :
    (loadScript conversion defaults).map (renderAll · placements) =
      (Session.load (conversion.written.codeWith conversion.namer.netOf
        (defaultChars defaults))).map fun (params, session) =>
          renderAll ⟨conversion, params, some session⟩ placements := by
  have own : loadScript conversion defaults =
      (Session.load (conversion.written.codeWith conversion.namer.netOf
        (defaultChars defaults))).map fun (params, session) =>
          ⟨conversion, params, some session⟩ := rfl
  rw [own]
  generalize Session.load _ = loaded
  cases loaded <;> rfl

/-- Comments make no difference to what is placed. -/
theorem render_like {namer : NetNamer} (like : m.IsLike namer.netOf n)
    (defaults : List (String × String)) (placements : List Placement) :
    (load ⟨m, namer⟩ defaults).map (renderAll · placements) =
      (load ⟨n, namer⟩ defaults).map (renderAll · placements) := by
  have declared : declaredParams m defaults = declaredParams n defaults := by
    rw [declaredParams, declaredParams, like.nets, like.designator, like.side]
  unfold load
  simp only [like.enclosed, isScript_like like, declared]
  cases n.isEnclosed with
  | false =>
    have loaded : Session.load (m.codeWith namer.netOf _) = _ :=
      like.load namer.netOf (isDefault_defaultChars defaults)
    have same := fun params session =>
      renderAll_session ⟨m, namer⟩ ⟨n, namer⟩ params session placements
    simp only [Bool.not_false, if_true, map_loadScript, loaded, same]
  | true =>
    simp only [Bool.not_true, Bool.false_eq_true, if_false]
    cases n.isScript with
    | false => rfl
    | true =>
      simp only [Bool.not_true, Bool.false_eq_true, if_false]
      cases readParams (.record (declaredParams n defaults)) with
      | error => rfl
      | ok params =>
        exact congrArg Except.ok (renderAll_filled rfl rfl (fillIn_like like params) placements)

end Renders

end FootprintTemplate.Preview
