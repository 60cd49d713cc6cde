import FootprintTemplate.Proofs.Body
import FootprintTemplate.Proofs.Script.Alike
import FootprintTemplate.Proofs.Script.Condensed

/-! The lines of a whole module. Without line comments and blank lines a module is its own lines, the
declarations of its nets, and the calls of the statements that are not disabled. -/
namespace FootprintTemplate

open Script (Condensed IsCode isLineCode isOneLine)
open Writer (Guarded)

section Literals

theorem isLineCode_of_isNamePart {c : Char} (part : Script.isNamePart c = true) :
    isLineCode c = true := by
  have neutral := Script.isNeutral_of_isNamePart part
  have other {d : Char} (apart : Script.isNamePart d = false) : c ≠ d := by
    rintro rfl
    rw [part] at apart
    cases apart
  have inside : Script.isLineEnd c = false := by
    simp [Script.isLineEnd, other (d := '\n') rfl, other (d := '\r') rfl,
      other (d := '\u2028') (by decide), other (d := '\u2029') (by decide)]
  simp only [Script.isNeutral, Bool.not_eq_true', List.contains_eq_mem, decide_eq_false_iff_not,
    List.mem_cons, not_or] at neutral
  simp [isLineCode, Script.isPlainCode, neutral, inside]

theorem isCode_stringLiteral (text : List Char) : IsCode (Script.stringLiteral text) := by
  obtain ⟨exact, read⟩ := Script.readText_stringLiteral text
  refine Script.isCode_string List.mem_cons_self fun rest =>
    ⟨Text.unitsOfChars text, exact, false, ?_⟩
  rw [List.append_assoc]
  exact read rest

theorem isCode_propertyKey (name : List Char) : IsCode (Script.propertyKey name) := by
  unfold Script.propertyKey
  split
  · rename_i identifier
    refine Script.isCode_plain (List.all_eq_true.mpr fun c member => isLineCode_of_isNamePart ?_)
    exact List.all_eq_true.mp (Script.isNamePart_of_isIdentifier identifier) c member
  · exact isCode_stringLiteral name

theorem isCode_singleQuoted {text : List Char}
    (isLiteral : text.all (fun c => c != '\n' && c != '\r') = true) :
    IsCode (Script.singleQuoted text) := by
  obtain ⟨exact, whole⟩ := Script.readText_singleQuoted text
  refine Script.isCode_string (by decide) fun rest =>
    ⟨Text.unitsOfChars text, exact, false, ?_⟩
  rw [List.append_assoc]
  exact (whole rest).trans (if_pos isLiteral)

end Literals

section Front

variable {m : Module}

def designatorLine (designator : String) : List Char :=
  "    designator: ".toList ++ Script.singleQuoted designator.toList ++ [',']

def sideDeclaration (side : Side) : List Char :=
  "    side: '".toList ++ side.letter.toList ++ "',".toList

def netLine (net : String) : List Char :=
  "    ".toList ++ Script.propertyKey net.toList ++
    ": \x7b type: 'net', value: undefined \x7d,".toList

/-- The lines up to the end of the nets. -/
def frontLines (m : Module) : List (List Char) :=
  "module.exports = \x7b".toList :: "  params: \x7b".toList :: designatorLine m.designator ::
    sideDeclaration m.side :: m.nets.map netLine

theorem ended_cons (line : List Char) (rest : List (List Char)) :
    ended (line :: rest) = line ++ '\n' :: ended rest := by
  simp [ended]

theorem ended_netLines (m : Module) : ended (m.nets.map netLine) = m.netBlock := by
  have line (net : String) : netLine net ++ ['\n'] = Module.declaration net "undefined".toList := by
    have feed : memberChars = ": \x7b type: 'net', value: undefined \x7d,".toList ++ ['\n'] := by
      decide
    have pieces (indent key value : List Char) :
        indent ++ key ++ value ++ ['\n'] = indent ++ (key ++ (value ++ ['\n'])) := by
      simp only [List.append_assoc]
    rw [declaration_eq, feed]
    exact pieces _ _ _
  rw [ended, List.flatMap_map, Module.netBlock]
  exact congrArg (m.nets.flatMap ·) (funext line)

theorem ended_frontLines (m : Module) : ended (frontLines m) = m.opening ++ m.netBlock := by
  have opens : "module.exports = \x7b\n  params: \x7b\n    designator: ".toList =
      "module.exports = \x7b".toList ++ '\n' :: ("  params: \x7b".toList ++
        '\n' :: "    designator: ".toList) := by decide
  have between : ",\n    side: '".toList = ',' :: '\n' :: "    side: '".toList := by decide
  have closes : "',\n".toList = "',".toList ++ ['\n'] := by decide
  unfold frontLines Module.opening designatorLine sideDeclaration
  rw [ended_cons, ended_cons, ended_cons, ended_cons, ended_netLines]
  -- The fixed texts are long; they are taken as they are.
  generalize "module.exports = \x7b\n  params: \x7b\n    designator: ".toList = start at opens ⊢
  generalize ",\n    side: '".toList = middle at between ⊢
  generalize "',\n".toList = last at closes ⊢
  generalize "module.exports = \x7b".toList = first at opens ⊢
  generalize "  params: \x7b".toList = second at opens ⊢
  generalize "    designator: ".toList = third at opens ⊢
  generalize "    side: '".toList = fourth at between ⊢
  generalize "',".toList = fifth at closes ⊢
  rw [opens, between, closes]
  simp only [List.append_assoc, List.cons_append, List.nil_append]

theorem sound_designatorLine {designator : String}
    (isLiteral : designator.toList.all (fun c => c != '\n' && c != '\r') = true) :
    (Row.code (designatorLine designator)).Sound := by
  have front : IsCode "    designator: ".toList := Script.isCode_plain rfl
  exact sound_line (front.append (isCode_singleQuoted isLiteral)) (by decide) rfl

theorem sound_sideDeclaration (side : Side) : (Row.code (sideDeclaration side)).Sound := by
  have front : IsCode "    side: ".toList := Script.isCode_plain rfl
  have letter : IsCode ('\x27' :: (side.letter.toList ++ ['\x27'])) :=
    Script.isCode_string (by decide) fun rest => by cases side <;> exact ⟨_, _, _, rfl⟩
  exact sound_line (c := ',') (front.append letter) (by decide) (by cases side <;> decide)

theorem sound_netLine (net : String) : (Row.code (netLine net)).Sound := by
  have indent : IsCode "    ".toList := Script.isCode_plain rfl
  have kind : IsCode (": \x7b type: ".toList ++ '\x27' :: "net'".toList) :=
    (Script.isCode_plain rfl).append
      (Script.isCode_string (by decide) fun rest => ⟨_, _, _, rfl⟩)
  have value : IsCode ", value: undefined \x7d".toList := Script.isCode_plain rfl
  have shape : ": \x7b type: 'net', value: undefined \x7d,".toList =
      (": \x7b type: ".toList ++ '\x27' :: "net'".toList) ++ ", value: undefined \x7d".toList ++
        [','] := by decide
  have pieces (front kind value : List Char) :
      front ++ (kind ++ value ++ [',']) = front ++ (kind ++ value) ++ [','] := by
    simp only [List.append_assoc]
  exact sound_line ((indent.append (isCode_propertyKey net.toList)).append (kind.append value))
    (by decide) ((congrArg (_ ++ ·) shape).trans (pieces _ _ _))

theorem sound_fixed (text : List Char) (c : Char) (plain : (text ++ [c]).all isLineCode = true) :
    (Row.code (text ++ [c])).Sound := by
  rw [List.all_append, Bool.and_eq_true] at plain
  exact sound_line (Script.isCode_plain plain.1) (by simpa using plain.2) rfl

theorem sound_frontLines (isLiteral : m.designator.toList.all (fun c => c != '\n' && c != '\r') = true) :
    ∀ row ∈ (frontLines m).map Row.code, row.Sound := by
  simp only [frontLines, List.map_cons, List.forall_mem_cons, List.map_map, List.forall_mem_map]
  refine ⟨?_, ?_, sound_designatorLine isLiteral, sound_sideDeclaration m.side,
    fun net _ => sound_netLine net⟩
  · exact sound_fixed "module.exports = ".toList '\x7b' rfl
  · exact sound_fixed "  params: ".toList '\x7b' rfl

end Front

section Whole

variable (netOf : String → String) {m : Module}

/-- The lines before the function of a module. -/
def beforeLines : List (List Char) :=
  ["  \x7d,".toList, "  body: p => \x7b".toList]

/-- The lines after the function of a module. -/
def afterLines : List (List Char) :=
  ["  \x7d".toList, "\x7d".toList]

/-- The lines from the end of the nets on. -/
def closingLines (m : Module) : List (List Char) :=
  beforeLines ++ openingRow :: ([flipRow m.side, sideRow m.side, Statement.call netOf m.header,
    placeRow] ++ (m.statements.filter (!·.disabled)).map (fun statement =>
      Statement.call netOf statement.fragments) ++ [closeRow, returnRow]) ++ afterLines

/-- The headings of a module are one line each, and its templates can be read. -/
structure Module.IsReadable (m : Module) : Prop where
  header : Guarded m.header
  oneLine : ∀ part ∈ m.sections, isOneLine part.label.toList = true
  guarded : ∀ statement ∈ m.statements, Guarded statement.fragments

theorem joined_code (lines : List (List Char)) : joined (lines.map Row.code) = ended lines :=
  List.flatMap_map Row.code _ lines

theorem codeOf_code (lines : List (List Char)) : codeOf (lines.map Row.code) = lines := by
  induction lines with
  | nil => rfl
  | cons line rest ih =>
    rw [codeOf] at ih ⊢
    simpa [Row.code] using ih

theorem sound_beforeLines : ∀ row ∈ beforeLines.map Row.code, row.Sound :=
  List.forall_mem_cons.mpr ⟨sound_fixed "  \x7d".toList ',' rfl,
    List.forall_mem_singleton.mpr (sound_fixed "  body: p => ".toList '\x7b' rfl)⟩

theorem sound_afterLines : ∀ row ∈ afterLines.map Row.code, row.Sound :=
  List.forall_mem_cons.mpr ⟨sound_fixed "  ".toList '\x7d' rfl,
    List.forall_mem_singleton.mpr (sound_fixed [] '\x7d' rfl)⟩

theorem joined_closing (readable : m.IsReadable) :
    ∃ rows, (∀ row ∈ rows, row.Sound) ∧ joined rows = m.closing netOf ∧
      codeOf rows = closingLines netOf m := by
  obtain ⟨rows, sound, text, lines⟩ := joined_function netOf
    (sound_bodyRows netOf readable.header readable.oneLine readable.guarded)
  have opens : "  \x7d,\n  body: p => \x7b\n".toList = ended beforeLines := by decide
  have closes : "  \x7d\n\x7d\n".toList = ended afterLines := by decide
  refine ⟨beforeLines.map Row.code ++ rows ++ afterLines.map Row.code, ?_, ?_, ?_⟩
  · exact List.forall_mem_append.mpr ⟨List.forall_mem_append.mpr ⟨sound_beforeLines, sound⟩,
      sound_afterLines⟩
  · rw [joined_append, joined_append, joined_code, joined_code, text, ← opens, ← closes]
    rfl
  · rw [codeOf_append, codeOf_append, lines, codeOf_bodyRows, codeOf_code, codeOf_code]
    rfl

theorem condensed_closing (readable : m.IsReadable) :
    Condensed (m.closing netOf) (ended (closingLines netOf m)) := by
  obtain ⟨rows, sound, text, lines⟩ := joined_closing netOf readable
  rw [← text, ← lines]
  exact condensed_joined sound

theorem condensed_code (readable : m.IsReadable)
    (isLiteral : m.designator.toList.all (fun c => c != '\n' && c != '\r') = true) :
    Condensed (m.code netOf).toList (ended (frontLines m ++ closingLines netOf m)) := by
  obtain ⟨rows, sound, text, lines⟩ := joined_closing netOf readable
  have whole := condensed_joined (List.forall_mem_append.mpr ⟨sound_frontLines isLiteral, sound⟩)
  rwa [joined_append, codeOf_append, joined_code, codeOf_code, ended_frontLines, text, lines,
    ← toList_code] at whole

end Whole

end FootprintTemplate
