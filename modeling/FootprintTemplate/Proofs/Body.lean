import FootprintTemplate.Proofs.Group
import FootprintTemplate.Proofs.Nets
import FootprintTemplate.Proofs.Script.Rows
import FootprintTemplate.Proofs.Writer.Literal

/-! The function of a module. Where every heading is one line, nothing of the source stands outside
the comments and templates of the function. -/
namespace FootprintTemplate

open Preview (Gathers isShown writtenChildren)
open Script (IsCode IsRemark Uncommented isOneLine commentLine splitLines)
open Sexpr (Node)
open Template (Fragment)
open Writer (Draft Guarded Rule)

section Statements

variable (netOf : String → String)

theorem isCode_call {fragments : List Fragment} (guarded : Guarded fragments) :
    IsCode (Statement.call netOf fragments) := by
  have template : IsCode ('\x60' :: (Template.chars netOf fragments ++ ['\x60'])) :=
    Script.isCode_template fun rest => by
      rw [List.append_assoc]
      exact ⟨_, guarded.reads netOf rest⟩
  have opening : IsCode "fp.push(".toList := Script.isCode_plain rfl
  have closing : IsCode ");".toList := Script.isCode_plain rfl
  have whole := (opening.append template).append closing
  rw [Statement.call_eq_template]
  simpa only [List.append_assoc, List.cons_append, List.nil_append] using whole

theorem call_eq (fragments : List Fragment) :
    Statement.call netOf fragments =
      "fp.push(\x60".toList ++ Template.chars netOf fragments ++ "\x60)".toList ++ [';'] := by
  change ("fp.push(\x60".toList ++ _) ++ ("\x60)".toList ++ [';']) = _
  exact (List.append_assoc _ _ _).symm

def statementRow (statement : Statement) : Row :=
  if statement.disabled then
    .comment ((splitLines (Statement.call netOf statement.fragments)).flatMap commentLine)
  else .code (Statement.call netOf statement.fragments)

theorem code_statementRow (statement : Statement) :
    statement.code netOf = (statementRow netOf statement).text ++ ['\n'] := by
  rw [Statement.code, statementRow]
  cases statement.disabled with
  | true =>
    have last : (Statement.call netOf statement.fragments).getLast? = some ';' := by
      rw [call_eq, List.getLast?_concat]
    change Script.commentOut _ = _
    rw [Script.commentOut, last]
    rfl
  | false => rfl

theorem sound_statementRow {statement : Statement} (guarded : Guarded statement.fragments) :
    (statementRow netOf statement).Sound := by
  have shape := call_eq netOf statement.fragments
  rw [statementRow]
  cases statement.disabled with
  | true =>
    refine Row.sound_comment (Script.isRemark_commentLines _) ?_
    rw [Script.getLast?_commentLines, shape, List.getLast?_concat]
    decide
  | false =>
    have isCode := isCode_call netOf guarded
    rw [shape] at isCode
    change (Row.code (Statement.call netOf statement.fragments)).Sound
    rw [shape]
    exact Row.sound_code isCode (by decide)

theorem codeOf_statementRows (statements : List Statement) :
    codeOf (statements.map (statementRow netOf)) =
      (statements.filter (!·.disabled)).map fun statement =>
        Statement.call netOf statement.fragments := by
  induction statements with
  | nil => rfl
  | cons statement rest ih =>
    rw [codeOf] at ih ⊢
    cases disabled : statement.disabled <;>
      simp [statementRow, disabled, ih, Row.code, Row.comment]

end Statements

section Sections

variable (netOf : String → String)

def headingRows (label : String) : List Row :=
  if label == "" then [] else [.comment ("// ".toList ++ label.toList)]

def sectionRows (part : Section) : List Row :=
  .comment [] :: (headingRows part.label ++ part.statements.map (statementRow netOf))

theorem joined_cons (row : Row) (rest : List Row) :
    joined (row :: rest) = row.text ++ ['\n'] ++ joined rest :=
  List.flatMap_cons

theorem joined_append (first second : List Row) :
    joined (first ++ second) = joined first ++ joined second :=
  List.flatMap_append

theorem codeOf_append (first second : List Row) :
    codeOf (first ++ second) = codeOf first ++ codeOf second := by
  simp [codeOf]

theorem joined_statementRows (statements : List Statement) :
    joined (statements.map (statementRow netOf)) = statements.flatMap (Statement.code netOf) := by
  rw [joined, List.flatMap_map]
  exact congrArg (statements.flatMap ·) (funext fun statement =>
    (code_statementRow netOf statement).symm)

theorem joined_sectionRows (part : Section) :
    joined (sectionRows netOf part) = part.code netOf := by
  have heading : joined (headingRows part.label) = Section.heading part.label := by
    rw [headingRows, Section.heading]
    split <;> simp [joined, Row.comment]
  have split : joined (sectionRows netOf part) = '\n' :: joined (headingRows part.label ++
      part.statements.map (statementRow netOf)) := rfl
  rw [split, joined_append, heading, joined_statementRows]
  rfl

theorem joined_sections (parts : List Section) :
    joined (parts.flatMap (sectionRows netOf)) = parts.flatMap (Section.code netOf) := by
  rw [joined, List.flatMap_assoc]
  exact congrArg (parts.flatMap ·) (funext (joined_sectionRows netOf))

theorem codeOf_sectionRows (part : Section) :
    codeOf (sectionRows netOf part) = codeOf (part.statements.map (statementRow netOf)) := by
  have heading : codeOf (headingRows part.label) = [] := by
    rw [headingRows]
    split <;> rfl
  have split : codeOf (sectionRows netOf part) = codeOf (headingRows part.label ++
      part.statements.map (statementRow netOf)) := rfl
  rw [split, codeOf_append, heading, List.nil_append]

theorem codeOf_cons_code (text : List Char) (rows : List Row) :
    codeOf (.code text :: rows) = text :: codeOf rows := rfl

theorem codeOf_sections (parts : List Section) :
    codeOf (parts.flatMap (sectionRows netOf)) =
      codeOf ((parts.flatMap Section.statements).map (statementRow netOf)) := by
  induction parts with
  | nil => rfl
  | cons part rest ih =>
    rw [List.flatMap_cons, List.flatMap_cons, codeOf_append, ih, codeOf_sectionRows,
      List.map_append, codeOf_append]

/-- The lines of code that the statements of a module add. -/
theorem codeOf_statements (m : Module) :
    codeOf (m.layer.toList.map (statementRow netOf) ++ m.sections.flatMap (sectionRows netOf)) =
      (m.statements.filter (!·.disabled)).map fun statement =>
        Statement.call netOf statement.fragments := by
  rw [codeOf_append, codeOf_sections, ← codeOf_append, ← List.map_append, codeOf_statementRows]
  rfl

theorem getLast?_ne_of_isOneLine {text : List Char} (isLine : isOneLine text = true) :
    text.getLast? ≠ some '\n' := by
  intro last
  have inside := List.all_eq_true.mp isLine '\n' (List.mem_of_getLast? last)
  exact absurd inside (by decide)

theorem isEnclosed_of_isOneLine {m : Module}
    (oneLine : ∀ part ∈ m.sections, isOneLine part.label.toList = true) : m.isEnclosed = true := by
  refine List.all_eq_true.mpr fun part member => ?_
  rw [Section.overflow, Script.drop_splitLines (oneLine part member)]
  rfl

theorem sound_sectionRows {part : Section} (oneLine : isOneLine part.label.toList = true)
    (guarded : ∀ statement ∈ part.statements, Guarded statement.fragments) :
    ∀ row ∈ sectionRows netOf part, row.Sound := by
  refine List.forall_mem_cons.mpr ⟨Row.sound_blank, ?_⟩
  refine List.forall_mem_append.mpr ⟨?_, ?_⟩
  · rw [headingRows]
    split
    · exact nofun
    · intro row member
      cases List.mem_singleton.mp member
      have spaced : isOneLine (' ' :: part.label.toList) = true := oneLine
      exact Row.sound_comment (Script.isRemark_comment spaced) (getLast?_ne_of_isOneLine oneLine)
  · intro row member
    obtain ⟨statement, written, rfl⟩ := List.mem_map.mp member
    exact sound_statementRow netOf (guarded statement written)

end Sections

section Function

def flipRow (side : Side) : List Char :=
  "    const flip = p.side === \"".toList ++ side.opposite.letter.toList ++ "\";".toList

def sideRow (side : Side) : List Char :=
  "if (!flip && p.side !== \"".toList ++ side.letter.toList ++
    "\") throw new Error('unsupported side: ' + p.side);".toList

def placeRow : List Char :=
  "fp.push(p.at);".toList

def openingRow : List Char :=
  "    const fp = [];".toList

def closeRow : List Char :=
  "    fp.push(')');".toList

def returnRow : List Char :=
  "    return fp.join('\\n');".toList

theorem isCode_letter (side : Side) : IsCode ('"' :: (side.letter.toList ++ ['"'])) := by
  refine Script.isCode_string List.mem_cons_self fun rest => ?_
  cases side <;> exact ⟨_, _, _, rfl⟩

theorem sound_line {row text : List Char} {c : Char} (isCode : IsCode text)
    (plain : Script.isLineCode c = true) (shape : row = text ++ [c]) : (Row.code row).Sound := by
  rw [shape]
  refine Row.sound_code (isCode.append (Script.isCode_plain (by simpa using plain))) ?_
  rintro rfl
  cases plain

theorem sound_semicolon {row text : List Char} (isCode : IsCode text)
    (shape : row = text ++ [';']) : (Row.code row).Sound :=
  sound_line isCode (by decide) shape

theorem sound_flipRow (side : Side) : (Row.code (flipRow side)).Sound := by
  have front : IsCode "    const flip = p.side === ".toList := Script.isCode_plain rfl
  exact sound_semicolon (front.append (isCode_letter side.opposite)) (by
    unfold flipRow; simp)

theorem sound_sideRow (side : Side) : (Row.code (sideRow side)).Sound := by
  have front : IsCode "if (!flip && p.side !== ".toList := Script.isCode_plain rfl
  have middle : IsCode ") throw new Error(".toList := Script.isCode_plain rfl
  have message : IsCode ('\x27' :: "unsupported side: '".toList) :=
    Script.isCode_string (by decide) fun rest => ⟨_, _, _, rfl⟩
  have back : IsCode " + p.side)".toList := Script.isCode_plain rfl
  exact sound_semicolon
    ((((front.append (isCode_letter side)).append middle).append message).append back)
    (by unfold sideRow; simp)

theorem sound_placeRow : (Row.code placeRow).Sound := by
  have call : IsCode "fp.push(p.at)".toList := Script.isCode_plain rfl
  exact sound_semicolon call (by unfold placeRow; simp)

theorem sound_openingRow : (Row.code openingRow).Sound := by
  have binding : IsCode "    const fp = []".toList := Script.isCode_plain rfl
  exact sound_semicolon binding (by unfold openingRow; simp)

theorem isCode_stringCall {front text : List Char} (plain : front.all Script.isLineCode = true)
    (read : ∀ rest, ∃ value exact octal, Script.readQuoted? '\x27' ((text ++ rest).length + 1)
      (text ++ rest) = some ⟨value, exact, octal, rest⟩) :
    IsCode (front ++ '\x27' :: text ++ [')']) := by
  have string : IsCode ('\x27' :: text) := Script.isCode_string (by decide) read
  exact ((Script.isCode_plain plain).append string).append (Script.isCode_plain rfl)

theorem sound_closeRow : (Row.code closeRow).Sound := by
  have call : IsCode ("    fp.push(".toList ++ '\x27' :: ")'".toList ++ [')']) :=
    isCode_stringCall rfl fun rest => ⟨_, _, _, rfl⟩
  exact sound_semicolon call (by unfold closeRow; simp)

theorem sound_returnRow : (Row.code returnRow).Sound := by
  have call : IsCode ("    return fp.join(".toList ++ '\x27' :: "\\n'".toList ++ [')']) :=
    isCode_stringCall rfl fun rest => ⟨_, _, _, rfl⟩
  exact sound_semicolon call (by unfold returnRow; simp)

variable (netOf : String → String)

/-- The rows of a module's own code. -/
def bodyRows (m : Module) : List Row :=
  [.code (flipRow m.side), .code (sideRow m.side), .comment [],
    .code (Statement.call netOf m.header), .code placeRow] ++
    m.layer.toList.map (statementRow netOf) ++ m.sections.flatMap (sectionRows netOf)

theorem indent_flipLine (side : Side) :
    "    ".toList ++ Module.flipLine side = flipRow side ++ ['\n'] := by
  unfold Module.flipLine flipRow
  simp

theorem sideLine_eq (side : Side) : Module.sideLine side = sideRow side ++ ['\n', '\n'] := by
  unfold Module.sideLine sideRow
  simp

theorem placeLine_eq : "\nfp.push(p.at);\n".toList = '\n' :: (placeRow ++ ['\n']) := by
  unfold placeRow
  simp

theorem openLine_eq : "    const fp = [];\n    ".toList = openingRow ++ ['\n'] ++ "    ".toList := by
  unfold openingRow
  simp

theorem closeLines_eq : "\n    fp.push(')');\n    return fp.join('\\n');\n".toList =
    ['\n'] ++ joined [Row.code closeRow, .code returnRow] := by
  unfold closeRow returnRow
  simp [joined, Row.code]

theorem joined_bodyRows (m : Module) :
    joined (bodyRows netOf m) = "    ".toList ++ m.body netOf := by
  have front : joined [.code (flipRow m.side), .code (sideRow m.side), .comment [],
      .code (Statement.call netOf m.header), .code placeRow] =
        flipRow m.side ++ ['\n'] ++ (sideRow m.side ++ ['\n', '\n'] ++
          (Statement.call netOf m.header ++ '\n' :: (placeRow ++ ['\n']))) := by
    simp [joined, Row.code, Row.comment]
  rw [bodyRows, joined_append, joined_append, front, joined_statementRows, joined_sections,
    ← indent_flipLine, ← sideLine_eq, ← placeLine_eq]
  unfold Module.body
  generalize "\nfp.push(p.at);\n".toList = place
  generalize "    ".toList = indent
  simp only [List.append_assoc]

theorem codeOf_bodyRows (m : Module) :
    codeOf (bodyRows netOf m) = [flipRow m.side, sideRow m.side, Statement.call netOf m.header,
      placeRow] ++ (m.statements.filter (!·.disabled)).map fun statement =>
        Statement.call netOf statement.fragments := by
  rw [bodyRows, List.append_assoc, codeOf_append, codeOf_statements]
  rfl

theorem sound_bodyRows {m : Module} (header : Guarded m.header)
    (oneLine : ∀ part ∈ m.sections, isOneLine part.label.toList = true)
    (guarded : ∀ statement ∈ m.statements, Guarded statement.fragments) :
    ∀ row ∈ bodyRows netOf m, row.Sound := by
  have call : (statementRow netOf ⟨false, m.header⟩).Sound := sound_statementRow netOf header
  obtain ⟨layer, sections⟩ := List.forall_mem_append.mp guarded
  refine List.forall_mem_append.mpr ⟨List.forall_mem_append.mpr ⟨?_, ?_⟩, ?_⟩
  · intro row member
    simp only [List.mem_cons, List.not_mem_nil, or_false] at member
    obtain rfl | rfl | rfl | rfl | rfl := member
    · exact sound_flipRow m.side
    · exact sound_sideRow m.side
    · exact Row.sound_blank
    · exact call
    · exact sound_placeRow
  · intro row member
    obtain ⟨statement, own, rfl⟩ := List.mem_map.mp member
    exact sound_statementRow netOf (layer statement own)
  · intro row member
    obtain ⟨part, own, inside⟩ := List.mem_flatMap.mp member
    exact sound_sectionRows netOf (oneLine part own) (fun statement written =>
      sections statement (List.mem_flatMap.mpr ⟨part, own, written⟩)) row inside

/-- The function is made of the module's rows between its own. -/
theorem joined_function {m : Module} (sound : ∀ row ∈ bodyRows netOf m, row.Sound) :
    ∃ rows, (∀ row ∈ rows, row.Sound) ∧ joined rows = m.function netOf ∧
      codeOf rows = openingRow :: (codeOf (bodyRows netOf m) ++ [closeRow, returnRow]) := by
  have filled : codeOf (bodyRows netOf m) ≠ [] := List.cons_ne_nil _ _
  obtain ⟨kept, within, lines, text⟩ := dropTrailing_joined sound filled
  have indent : ("    ".toList).getLast? ≠ some '\n' := by decide
  rw [joined_bodyRows, dropTrailing_append indent] at text
  -- The fixed texts are long; the list they make up is put together apart from them.
  have pieces {first last own indent dropped closing : List Char}
      (opens : first = own ++ ['\n'] ++ indent) (closes : last = ['\n'] ++ closing) :
      own ++ ['\n'] ++ (indent ++ dropped ++ ['\n'] ++ closing) = first ++ dropped ++ last := by
    rw [opens, closes]
    simp only [List.append_assoc]
  refine ⟨.code openingRow :: (kept ++ [Row.code closeRow, .code returnRow]), ?_, ?_, ?_⟩
  · refine List.forall_mem_cons.mpr ⟨sound_openingRow, List.forall_mem_append.mpr
      ⟨fun row member => sound row (within row member), ?_⟩⟩
    exact List.forall_mem_cons.mpr ⟨sound_closeRow, List.forall_mem_cons.mpr
      ⟨sound_returnRow, nofun⟩⟩
  · rw [joined_cons, joined_append, ← text]
    exact pieces openLine_eq closeLines_eq
  · have split : codeOf (.code openingRow :: (kept ++ [Row.code closeRow, .code returnRow])) =
        openingRow :: codeOf (kept ++ [Row.code closeRow, .code returnRow]) := rfl
    rw [split, codeOf_append, lines]
    rfl

/-- Outside comments, the function is its own lines and the calls of the statements that are not
disabled. -/
theorem uncommented_function {m : Module} (header : Guarded m.header)
    (oneLine : ∀ part ∈ m.sections, isOneLine part.label.toList = true)
    (guarded : ∀ statement ∈ m.statements, Guarded statement.fragments) :
    ∃ code, Uncommented (m.function netOf) code ∧
      MadeOf ([openingRow, flipRow m.side, sideRow m.side, Statement.call netOf m.header,
        placeRow] ++ (m.statements.filter (!·.disabled)).map (fun statement =>
          Statement.call netOf statement.fragments) ++ [closeRow, returnRow]) code := by
  obtain ⟨rows, sound, text, lines⟩ :=
    joined_function netOf (sound_bodyRows netOf header oneLine guarded)
  obtain ⟨code, outside, made⟩ := uncommented_joined sound
  rw [text] at outside
  rw [lines, codeOf_bodyRows] at made
  exact ⟨code, outside, made⟩

end Function

section Gathered

theorem isShown_iff {root : String} (isRoot : root ≠ "pad") {child : Node} :
    isShown root child = true ↔
      child.kind ≠ "property" ∧ child.kind ∉ Rule.provenanceKinds := by
  have noNet : (child.kind == "net" && some root == some "pad") = false := by simp [isRoot]
  rw [isShown, beq_iff_eq, Rule.disposition_select, noNet, Bool.or_false]
  by_cases source : child.kind ∈ Rule.provenanceKinds
  · simp [source]
  · have noSource : Rule.provenanceKinds.contains child.kind = false := by simpa using source
    rw [noSource, if_neg Bool.false_ne_true]
    by_cases property : child.kind = "property" <;> simp [property, source]

theorem gathers_writes (root : String) :
    Gathers root fun _ statements children =>
      (∀ statement ∈ statements, Guarded statement.fragments) ∧
        (children.filter (isShown root)).map (fun child =>
          (Writer.write (some root) child).outcome) =
            (statements.filter (!·.disabled)).map fun statement => .ok statement.fragments where
  nil := ⟨nofun, rfl⟩
  append start rest := by
    refine ⟨List.forall_mem_append.mpr ⟨start.1, rest.1⟩, ?_⟩
    rw [List.filter_append, List.map_append, List.filter_append, List.map_append, start.2, rest.2]
  child {child statement} ok := by
    cases disposition : (Rule.select (some root) child.kind).disposition with
    | skip =>
      rw [draftStatement_skip disposition] at ok
      cases ok
      simp [isShown, disposition]
    | emit | disabled =>
      rw [draftStatement_write (by simp [disposition]), disposition] at ok
      obtain ⟨fragments, written, rfl⟩ := Draft.bind_pure_eq_ok.mp ok
      have guarded := Writer.guarded_node (Writer.spaced_items child.kind child.items) written
      simp [isShown, disposition, guarded, written]

theorem guarded_header (footprint : Node) : Guarded (header footprint) := by
  have atoms (texts : List String) :
      Guarded (texts.flatMap fun atom => [.punct " ", .source atom]) := by
    induction texts with
    | nil => exact .nil
    | cons text rest ih => exact .source rfl ih
  exact .source rfl (atoms footprint.atoms)

theorem labels_draftSections {root : String} {groups : List Group} {sections : List Section}
    (ok : (Draft.all (groups.map fun group =>
      (draftStatements root group.nodes).bind fun statements =>
        .pure (Section.mk group.label statements))).outcome = .ok sections) :
    sections.map Section.label = groups.map Group.label := by
  induction groups generalizing sections with
  | nil =>
    cases ok
    rfl
  | cons group rest ih =>
    obtain ⟨own, others, okFirst, okRest, rfl⟩ := Draft.all_cons_eq_ok.mp ok
    obtain ⟨statements, -, rfl⟩ := Draft.bind_pure_eq_ok.mp okFirst
    rw [List.map_cons, List.map_cons, ih okRest]

end Gathered

section Conversion

variable {config : Config} {footprint : Node} {conversion : Conversion}

theorem isOneLine_heading {layer : String} :
    isOneLine ("Drawings on " ++ layer).toList = true ↔ isOneLine layer.toList = true := by
  have front : isOneLine "Drawings on ".toList = true := by decide
  rw [isOneLine] at front
  rw [String.toList_append, isOneLine, List.all_append, front, Bool.true_and, isOneLine]

theorem isOneLine_labels {sections : List Section}
    (ok : (draftSections footprint).outcome = .ok sections) :
    (∀ part ∈ sections, isOneLine part.label.toList = true) ↔
      ∀ drawing ∈ footprint.nodes, GroupKind.of? drawing.kind = some .drawings →
        isOneLine (drawingLayer drawing).toList = true := by
  have labels := labels_draftSections ok
  have headings : (∀ part ∈ sections, isOneLine part.label.toList = true) ↔
      ∀ group ∈ classify footprint, isOneLine group.label.toList = true := by
    have along : (∀ label ∈ sections.map Section.label, isOneLine label.toList = true) ↔
        ∀ label ∈ (classify footprint).map Group.label, isOneLine label.toList = true := by
      rw [labels]
    simpa only [List.forall_mem_map] using along
  have fixed (kind : GroupKind) : isOneLine kind.label.toList = true := by
    cases kind <;> decide
  rw [headings, label_classify (fun label => isOneLine label.toList = true) fixed]
  simp only [isOneLine_heading]

theorem filter_isShown (root : footprint.kind = "footprint" ∨ footprint.kind = "module")
    (children : List Node) :
    children.filter (isShown footprint.kind) = children.filter fun child =>
      child.kind != "property" && !Rule.provenanceKinds.contains child.kind := by
  have noPad : footprint.kind ≠ "pad" := by
    intro isPad
    rw [isPad] at root
    exact absurd root (by decide)
  refine List.filter_congr fun child _ => Bool.eq_iff_iff.mpr ?_
  rw [isShown_iff noPad]
  simp

/-- The headings of a conversion are one line each unless a drawing's layer has a name of several.
Then the function consists of its own lines and of the calls of the children that are shown; all
other text of the source stands in comments. -/
theorem convert_comments (converted : convert config footprint = .ok conversion) :
    conversion.code.toList = conversion.written.opening ++ conversion.written.netBlock ++
        conversion.written.closing conversion.namer.netOf ∧
      ((∀ part ∈ conversion.written.sections, isOneLine part.label.toList = true) ↔
        ∀ drawing ∈ footprint.nodes, GroupKind.of? drawing.kind = some .drawings →
          isOneLine (drawingLayer drawing).toList = true) ∧
      ((∀ part ∈ conversion.written.sections, isOneLine part.label.toList = true) →
        ∃ (texts : List (List Fragment)) (code : List Char),
          (∀ other, Uncommented (conversion.written.function conversion.namer.netOf) other ↔
            other = code) ∧
          MadeOf ([openingRow, flipRow (sideOf footprint), sideRow (sideOf footprint),
              Statement.call conversion.namer.netOf (header footprint), placeRow] ++
            texts.map (Statement.call conversion.namer.netOf) ++ [closeRow, returnRow]) code ∧
          ((writtenChildren footprint).filter fun child =>
              child.kind != "property" && !Rule.provenanceKinds.contains child.kind).map
            (fun child => (Writer.write (some footprint.kind) child).outcome) =
              texts.map .ok) := by
  obtain ⟨root, layer, sections, ok, rfl⟩ := convert_eq_ok.mp converted
  obtain ⟨own, -, okRest⟩ := Draft.bind_eq_ok.mp ok
  obtain ⟨groups, okSections, same⟩ := Draft.bind_pure_eq_ok.mp okRest
  cases same
  obtain ⟨guarded, written⟩ := (gathers_writes footprint.kind).draftBody ok
  refine ⟨toList_code _ _, isOneLine_labels okSections, fun oneLine => ?_⟩
  obtain ⟨code, outside, made⟩ := uncommented_function (namerOf config footprint).netOf
    (m := ⟨config.designator, sideOf footprint, _, header footprint, layer, sections⟩)
    (guarded_header footprint) oneLine guarded
  refine ⟨((layer.toList ++ sections.flatMap Section.statements).filter (!·.disabled)).map
    Statement.fragments, code, outside.only, ?_, ?_⟩
  · rw [List.map_map]
    exact made
  · rw [← filter_isShown root, written, List.map_map]
    rfl

/-- A property that holds a call on a line of its own, and a drawing on a layer of one line. -/
def remarkedFootprint : Node :=
  ⟨"footprint", [.atom "a", .node "property" [.atom "\"b\nfp.push('c')\""],
    .node "fp_line" [.node "layer" [.atom "Cu"]]]⟩

theorem convert_comments_remarkedFootprint :
    ∃ conversion, convert {} remarkedFootprint = .ok conversion ∧
      ∃ code, (∀ other, Uncommented (conversion.written.function conversion.namer.netOf) other ↔
          other = code) ∧
        MadeOf [openingRow, flipRow .front, sideRow .front, "fp.push(\x60(footprint a\x60);".toList,
          placeRow, "fp.push(\x60(fp_line (layer \"Cu\"))\x60);".toList, closeRow, returnRow] code := by
  have groups : classify remarkedFootprint =
      [⟨.drawings, "Drawings on Cu", [⟨"fp_line", [.node "layer" [.atom "Cu"]]⟩]⟩,
        ⟨.properties, "Properties", [⟨"property", [.atom "\"b\nfp.push('c')\""]⟩]⟩] := by cbv
  obtain ⟨⟨layer, sections⟩, body⟩ :
      ∃ result, (draftBody remarkedFootprint).outcome = .ok result := by
    rw [draftBody, draftSections, groups]
    exact ⟨_, rfl⟩
  obtain ⟨conversion, converted⟩ : ∃ conversion, convert {} remarkedFootprint = .ok conversion :=
    ⟨_, convert_eq_ok.mpr ⟨.inl rfl, layer, sections, body, rfl⟩⟩
  obtain ⟨-, headings, encloses⟩ := convert_comments converted
  obtain ⟨texts, code, outside, made, written⟩ := encloses (headings.mpr (by decide))
  have children : writtenChildren remarkedFootprint =
      [⟨"fp_line", [.node "layer" [.atom "Cu"]]⟩,
        ⟨"property", [.atom "\"b\nfp.push('c')\""]⟩] := by
    rw [writtenChildren, groups]
    rfl
  rw [children] at written
  have own : texts = [[.punct "(", .source "fp_line", .punct " ", .punct "(layer ", .punct "\"",
      .source "Cu", .punct "\"", .punct ")", .punct ")"]] :=
    List.map_injective_iff.mpr (fun _ _ => Except.ok.inj) written.symm
  rw [own] at made
  exact ⟨conversion, converted, code, outside, made⟩

/-- A drawing whose layer has a call on the second line of its name. -/
def strayCall : Node :=
  ⟨"footprint", [.atom "a", .node "fp_line" [.node "layer" [.atom "\"b\nfp.push('c')\""]]]⟩

def strayRow : List Char :=
  "fp.push('c')".toList

def strayDrawing : List Fragment :=
  [.punct "(", .source "fp_line", .punct " ", .punct "(layer ", .punct "\"",
    .source "b\nfp.push('c')", .punct "\"", .punct ")", .punct ")"]

theorem sound_strayRow : (Row.code strayRow).Sound := by
  have call : IsCode ("fp.push(".toList ++ '\x27' :: "c'".toList ++ [')']) :=
    isCode_stringCall rfl fun rest => ⟨_, _, _, rfl⟩
  exact Row.sound_code call (by decide)

def strayConversion : Conversion where
  written := ⟨"XX", .front, [], header strayCall, none,
    [⟨"Drawings on b\nfp.push('c')", [⟨false, strayDrawing⟩]⟩]⟩
  namer := ⟨{}, []⟩

def strayRows : List Row :=
  [.code openingRow, .code (flipRow .front), .code (sideRow .front), .comment [],
    .code (Statement.call id (header strayCall)), .code placeRow, .comment [],
    .comment "// Drawings on b".toList, .code strayRow, .code (Statement.call id strayDrawing),
    .code closeRow, .code returnRow]

theorem sound_strayRows : ∀ row ∈ strayRows, row.Sound := by
  have drawing : (Writer.write (some "footprint")
      ⟨"fp_line", [.node "layer" [.atom "\"b\nfp.push('c')\""]]⟩).outcome = .ok strayDrawing := rfl
  have header : (statementRow id ⟨false, header strayCall⟩).Sound :=
    sound_statementRow id (guarded_header strayCall)
  have call : (statementRow id ⟨false, strayDrawing⟩).Sound :=
    sound_statementRow id (Writer.guarded_node (Writer.spaced_items _ _) drawing)
  have oneLine : isOneLine " Drawings on b".toList = true := by decide
  have heading : IsRemark false "// Drawings on b".toList := Script.isRemark_comment oneLine
  simp only [strayRows, List.forall_mem_cons]
  exact ⟨sound_openingRow, sound_flipRow _, sound_sideRow _, Row.sound_blank, header,
    sound_placeRow, Row.sound_blank, Row.sound_comment heading (by decide), sound_strayRow, call,
    sound_closeRow, sound_returnRow, List.forall_mem_nil _⟩

/-- The layer's name leaves the comment of its heading, and its second line is read as a call. -/
theorem convert_uncommented_strayCall :
    Sexpr.parse "(footprint a (fp_line (layer \"b\nfp.push('c')\")))" = .ok strayCall ∧
      convert {} strayCall = .ok strayConversion ∧
      (∃ part ∈ strayConversion.written.sections, isOneLine part.label.toList = false) ∧
      ∃ code, (∀ other, Uncommented
          (strayConversion.written.function strayConversion.namer.netOf) other ↔ other = code) ∧
        MadeOf [openingRow, flipRow .front, sideRow .front, Statement.call id (header strayCall),
          placeRow, strayRow, Statement.call id strayDrawing, closeRow, returnRow] code ∧
        ¬ MadeOf [openingRow, flipRow .front, sideRow .front, Statement.call id (header strayCall),
          placeRow, Statement.call id strayDrawing, closeRow, returnRow] code := by
  have read : Sexpr.parse "(footprint a (fp_line (layer \"b\nfp.push('c')\")))" = .ok strayCall :=
    Sexpr.parse_eq_ok.mpr ⟨by decide, by decide, by decide, by decide⟩
  have groups : classify strayCall = [⟨.drawings, "Drawings on b\nfp.push('c')",
      [⟨"fp_line", [.node "layer" [.atom "\"b\nfp.push('c')\""]]⟩]⟩] := by cbv
  have body : draftBody strayCall = ⟨[], .ok (none, strayConversion.written.sections)⟩ := by
    rw [draftBody, draftSections, groups]
    rfl
  have namer : namerOf {} strayCall = ⟨{}, []⟩ := by
    rw [namerOf, body]
    rfl
  have nets : NetNamer.paramNames ⟨{}, []⟩ = [] := List.mergeSort_nil
  have converted : convert {} strayCall = .ok strayConversion :=
    convert_eq_ok.mpr ⟨.inl rfl, none, _, congrArg Draft.outcome body, by rw [namer, nets]; rfl⟩
  have text : joined strayRows =
      strayConversion.written.function strayConversion.namer.netOf := by decide +kernel
  obtain ⟨code, outside, made⟩ := uncommented_joined sound_strayRows
  rw [text] at outside
  refine ⟨read, converted, ⟨_, List.mem_singleton_self _, by decide⟩, code, outside.only,
    made, fun other => ?_⟩
  have same := made.printed.symm.trans other.printed
  exact absurd same (by decide +kernel)

end Conversion

end FootprintTemplate
