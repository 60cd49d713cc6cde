import FootprintTemplate.Proofs.Preview.Remarks
import FootprintTemplate.Proofs.Script.Exports
import FootprintTemplate.Proofs.Script.Members
import FootprintTemplate.Proofs.Writer.Evaluated
import Mathlib.Data.List.Nodup

/-! The script of a module as a program. Where its headings hold comments alone, the text that is
loaded is read as a record of the parameters and a routine that adds the lines of the footprint. -/
namespace FootprintTemplate

open FootprintTemplate.Module (dropTrailing)
open Script (Alike IsTemplate Lexed ReadsField Scan StartsToken Standing Token splitLines)
open Text (Units units unitsOfChars)
open Writer (Guarded ReadsLiteral literalTree places)

/-- The calls of statements, one after another. -/
def calls (netOf : String → String) (statements : List Statement) : List Char :=
  statements.flatMap fun statement => Statement.call netOf statement.fragments

section Lines

open Script (pushLine pushTokens quote sign word)

variable {netOf : String → String}

/-- Where a script has come to in the routine of a module, or in its parameters. -/
def within (crossed : Bool) (chars : List Char) : Standing :=
  ⟨[false, false], crossed, chars⟩

theorem lexed_pushed (rest : List Char) :
    Lexed (within false ("\nfp.push(".toList ++ rest)) (pushTokens true) (within false rest) :=
  Lexed.scan 9 ⟨_, _, _⟩ (by decide +kernel) rest

theorem lexed_closed (rest : List Char) :
    Lexed (within false (");".toList ++ rest)) [sign ")", sign ";"] (within false rest) :=
  Lexed.scan 9 ⟨_, _, _⟩ (by decide +kernel) rest

theorem ReadsLiteral.lexed_call {fragments : List Template.Fragment} {rest : List Char}
    {tokens : List (Token × Bool)}
    (reads : ReadsLiteral netOf fragments (");".toList ++ rest) tokens) :
    Lexed (within false ('\n' :: (Statement.call netOf fragments ++ rest))) (pushLine tokens)
      (within false rest) := by
  have text : '\n' :: (Statement.call netOf fragments ++ rest) = "\nfp.push(".toList ++
      '\x60' :: (Template.chars netOf fragments ++ '\x60' :: (");".toList ++ rest)) :=
    congrArg ('\n' :: ·) (Writer.call_append netOf fragments rest)
  rw [text]
  exact ((lexed_pushed _).append (reads.lexed [false, false])).append (lexed_closed rest)

/-- Fewer places than characters are written. -/
theorem length_places (netOf : String → String) (fragments : List Template.Fragment) :
    (places fragments).length ≤ (Template.chars netOf fragments).length := by
  induction fragments with
  | nil => exact Nat.zero_le _
  | cons fragment rest ih =>
    rw [Writer.chars_cons, List.length_append]
    cases fragment with
    | punct | source => exact Nat.le_trans ih (Nat.le_add_left _ _)
    | coordinate | faced | rotation | mirrorFlag | net =>
      refine Nat.le_trans (Nat.succ_le_succ ih) ?_
      rw [← Nat.add_one, Nat.add_comm]
      exact Nat.add_le_add_right (Nat.succ_le_succ (Nat.zero_le _)) _

theorem length_call (netOf : String → String) (fragments : List Template.Fragment) :
    (Statement.call netOf fragments).length = (Template.chars netOf fragments).length + 12 := by
  have pieces {front chars back : List Char} (one : front.length = 9) (other : back.length = 3) :
      (front ++ chars ++ back).length = chars.length + 12 := by
    rw [List.length_append, List.length_append, one, other]
    omega
  exact pieces (by decide) (by decide)

/-- More tokens than a character of a module stands for. -/
def manyTokens : Nat :=
  Script.manyTokens + 2

theorem ReadsLiteral.length {fragments : List Template.Fragment} {rest : List Char}
    {tokens : List (Token × Bool)} (reads : ReadsLiteral netOf fragments rest tokens) :
    (pushLine tokens).length ≤ manyTokens * (Statement.call netOf fragments).length := by
  have places := length_places netOf fragments
  have few := reads.few
  rw [length_call, pushLine, List.length_append, List.length_append]
  change 4 + tokens.length + 2 ≤ _
  unfold manyTokens Script.manyTokens at *
  omega

/-- The tokens of the lines that statements add. -/
structure ReadsLines (netOf : String → String) (statements : List Statement) (tail : List Char)
    (lines : List (List (Token × Bool))) : Prop where
  areTemplates : List.Forall₂ IsTemplate lines
    (statements.map fun statement => literalTree netOf statement.fragments)
  few : (lines.map pushLine).flatten.length ≤ manyTokens *
    (statements.flatMap fun statement => Statement.call netOf statement.fragments).length
  lexed : Lexed (within false (onLines (statements.map fun statement =>
    Statement.call netOf statement.fragments) tail)) (lines.map pushLine).flatten
      (within false ('\n' :: tail))

theorem exists_lines (netOf : String → String) (statements : List Statement)
    (guarded : ∀ statement ∈ statements, Guarded statement.fragments)
    (script : ∀ statement ∈ statements,
      statement.fragments.all Template.Fragment.isScript = true)
    (few : ∀ statement ∈ statements, (places statement.fragments).length < Script.maxParts)
    (tail : List Char) : ∃ lines, ReadsLines netOf statements tail lines := by
  induction statements with
  | nil => exact ⟨[], .nil, Nat.zero_le _, .nil _⟩
  | cons statement rest ih =>
    obtain ⟨own, guarded⟩ := List.forall_mem_cons.mp guarded
    obtain ⟨ownScript, script⟩ := List.forall_mem_cons.mp script
    obtain ⟨ownFew, few⟩ := List.forall_mem_cons.mp few
    obtain ⟨lines, areTemplates, short, lexed⟩ := ih guarded script few
    let next := onLines (rest.map fun statement => Statement.call netOf statement.fragments) tail
    obtain ⟨tokens, reads⟩ := own.exists_tokens netOf ownScript ownFew (");".toList ++ next)
    refine ⟨tokens :: lines, .cons reads.isTemplate areTemplates, ?_, ?_⟩
    · have first := ReadsLiteral.length reads
      rw [List.map_cons, List.flatten_cons, List.length_append, List.flatMap_cons, List.length_append,
        Nat.mul_add]
      exact Nat.add_le_add first short
    · have text : onLines ((statement :: rest).map fun statement =>
          Statement.call netOf statement.fragments) tail =
            '\n' :: (Statement.call netOf statement.fragments ++ next) := by
        simp [onLines, next]
      rw [text, List.map_cons, List.flatten_cons]
      exact (ReadsLiteral.lexed_call reads).append lexed

end Lines

section Params

open Script (Constant FieldTokens IsDefaultToken IsKeyToken Tree declarationTokens declarationTree quote
  sign word)

theorem IsKeyToken.stays {key : Token} {name : Units} (isKey : IsKeyToken key name)
    {braces : List Bool} : Script.Position.after ⟨false, braces⟩ key = ⟨false, braces⟩ := by
  cases isKey <;> rfl

theorem IsDefaultToken.stays {token : Token} {default : Constant}
    (isDefault : IsDefaultToken token default) {braces : List Bool} :
    Script.Position.after ⟨false, braces⟩ token = ⟨false, braces⟩ := by
  cases isDefault <;> rfl

theorem exists_keyToken (name : List Char) :
    ∃ key, IsKeyToken key (unitsOfChars name) ∧ ∀ rest, Script.EndsName rest →
      StartsToken (Script.propertyKey name ++ rest) key rest := by
  unfold Script.propertyKey
  split
  · rename_i identifier
    have own : units (String.ofList name) = unitsOfChars name :=
      congrArg unitsOfChars String.toList_ofList
    exact ⟨_, own ▸ .name (String.ofList name), fun rest ends =>
      ⟨Script.opensToken_name identifier rest, Script.readToken_name identifier ends⟩⟩
  · obtain ⟨exact, read⟩ := Script.readToken_stringLiteral name
    exact ⟨_, .text _ exact, fun rest _ =>
      ⟨Script.opensToken_of rfl rfl (by decide) _, read rest⟩⟩

/-- The default of a net, as a script reads it. -/
def defaultConstant (default : Option String) : Constant :=
  match default with
  | some text => .text (units text)
  | none => .null

theorem exists_defaultToken (defaults : List (String × String)) (net : String) :
    ∃ token, IsDefaultToken token (defaultConstant (defaults.lookup net)) ∧ ∀ rest,
      StartsToken (Preview.defaultChars defaults net ++ ' ' :: rest) token (' ' :: rest) := by
  unfold defaultConstant Preview.defaultChars
  cases defaults.lookup net with
  | some text =>
    obtain ⟨exact, read⟩ := Script.readToken_stringLiteral text.toList
    exact ⟨_, .text _ exact, fun rest => ⟨Script.opensToken_of rfl rfl (by decide) _, read _⟩⟩
  | none =>
    refine ⟨_, .null, fun rest => ⟨Script.opensToken_name (by decide) _, ?_⟩⟩
    have read := Script.readToken_name (by decide : Script.isIdentifier "null".toList = true)
      (Script.endsName_cons (by decide : ' ' ∈ _) rest)
    rwa [String.ofList_toList] at read

/-- The member of the parameters that declares a net. -/
def netField (defaults : List (String × String)) (net : String) : Units × Tree :=
  (units net, declarationTree (defaultConstant (defaults.lookup net)))

/-- The tokens of a declaration. -/
structure LexesNet (defaults : List (String × String)) (net : String) (field : FieldTokens) :
    Prop where
  isField : ReadsField field (netField defaults net)
  few : field.all.length = 12
  lexed : ∀ rest, Lexed
    (within true (Module.declaration net (Preview.defaultChars defaults net) ++ rest)) field.all
      (within true rest)

theorem exists_net (defaults : List (String × String)) (net : String) :
    ∃ field, LexesNet defaults net field := by
  obtain ⟨key, isKey, keyStarts⟩ := exists_keyToken net.toList
  obtain ⟨default, isDefault, defaultStarts⟩ := exists_defaultToken defaults net
  refine ⟨⟨key, declarationTokens default⟩,
    ⟨isKey, Script.readsMember_declaration isDefault⟩, rfl, fun rest => ?_⟩
  rw [declaration_append]
  have indent (chars : List Char) :
      Lexed (within true ("    ".toList ++ chars)) [] (within true chars) :=
    Lexed.scan 9 ⟨_, _, _⟩ (by decide +kernel) chars
  have before (chars : List Char) :
      Lexed (within false (": \x7b type: 'net', value: ".toList ++ chars))
        [sign ":", sign "\x7b", word "type", sign ":", quote (units "net"), sign ",", word "value",
          sign ":"] ⟨[false, false, false], false, chars⟩ :=
    Lexed.scan 40 ⟨_, _, _⟩ (by decide +kernel) chars
  have after : Lexed ⟨[false, false, false], false, " \x7d,\n".toList ++ rest⟩
      [sign "\x7d", sign ","] (within true rest) :=
    Lexed.scan 9 ⟨_, _, _⟩ (by decide +kernel) rest
  have colon (chars : List Char) : Script.EndsName (": \x7b type: 'net', value: ".toList ++ chars) :=
    Script.endsName_cons (by decide) _
  have name := keyStarts _ (colon (Preview.defaultChars defaults net ++ (" \x7d,".toList ++ '\n' :: rest)))
  have named : Lexed (within true _) [(key, true)] (within false _) :=
    Lexed.token name.opens name.read (IsKeyToken.stays isKey)
  have value := defaultStarts ("\x7d,\n".toList ++ rest)
  have valued : Lexed ⟨[false, false, false], false, _⟩ [(default, false)]
      ⟨[false, false, false], false, _⟩ :=
    Lexed.token value.opens value.read (IsDefaultToken.stays isDefault)
  exact ((((indent _).append named).append (before _)).append valued).append after

/-- The tokens of the declarations of nets. -/
structure LexesNets (defaults : List (String × String)) (nets : List String)
    (fields : List FieldTokens) : Prop where
  areFields : List.Forall₂ ReadsField fields (nets.map (netField defaults))
  few : (fields.flatMap FieldTokens.all).length = 12 * nets.length
  lexed : ∀ rest, Lexed (within true
    (nets.flatMap (fun net => Module.declaration net (Preview.defaultChars defaults net)) ++ rest))
      (fields.flatMap FieldTokens.all) (within true rest)

theorem exists_nets (defaults : List (String × String)) (nets : List String) :
    ∃ fields, LexesNets defaults nets fields := by
  induction nets with
  | nil => exact ⟨[], .nil, rfl, fun rest => .nil _⟩
  | cons net rest ih =>
    obtain ⟨fields, areFields, few, lexed⟩ := ih
    obtain ⟨field, own⟩ := exists_net defaults net
    refine ⟨field :: fields, .cons own.isField areFields, ?_, fun tail => ?_⟩
    · rw [List.flatMap_cons, List.length_append, own.few, few, List.length_cons]
      omega
    · rw [List.flatMap_cons, List.flatMap_cons, List.append_assoc]
      exact (own.lexed _).append (lexed tail)

end Params

section Lengths

variable {netOf : String → String}

/-- Lines of code are no shorter once the blank lines at their end are left out. -/
theorem length_trimmed {rows : List Row} (sound : ∀ row ∈ rows, row.Sound) (tail : List Char) :
    (codeOf rows).flatten.length + tail.length ≤ (trimmed tail (joined rows)).length := by
  induction rows with
  | nil =>
    have text : trimmed tail (joined []) = '\n' :: tail := rfl
    rw [text, List.length_cons]
    exact Nat.le_succ_of_le (Nat.le_of_eq (Nat.zero_add _))
  | cons row rest ih =>
    obtain ⟨own, others⟩ := List.forall_mem_cons.mp sound
    have more := ih others
    have first : (codeOf (row :: rest)).flatten.length ≤
        row.text.length + (codeOf rest).flatten.length := by
      cases isCode : row.isCode <;> simp [codeOf, isCode]
    have split : joined (row :: rest) = row.text ++ '\n' :: joined rest := by simp [joined]
    rw [split]
    by_cases blank : row.text = []
    · rw [blank] at first ⊢
      rw [List.nil_append]
      obtain same | further := trimmed_feed tail (joined rest)
      · rw [same]
        simp only [List.length_nil] at first
        omega
      · rw [further, List.length_cons]
        simp only [List.length_nil] at first
        omega
    · rw [trimmed_line blank own.ends, List.length_cons, List.length_append]
      omega

/-- What a module holds is no longer than its script. -/
theorem length_codeWith {m : Module} (enclosed : m.isEnclosed = true)
    (guarded : ∀ statement ∈ m.statements, Guarded statement.fragments)
    (default : String → List Char) :
    m.nets.length + (Statement.call netOf m.header).length + (calls netOf m.enabled).length ≤
      (m.codeWith netOf default).toList.length := by
  obtain ⟨rows, sound, text, lines⟩ := exists_laterRows netOf enclosed guarded
  have nets : m.nets.length ≤
      (m.nets.flatMap fun net => Module.declaration net (default net)).length := by
    induction m.nets with
    | nil => exact Nat.zero_le _
    | cons net rest ih =>
      have one : 1 ≤ (Module.declaration net (default net)).length := by
        have text := declaration_append net (default net) []
        rw [List.append_nil] at text
        rw [text]
        exact Nat.succ_le_succ (Nat.zero_le _)
      rw [List.flatMap_cons, List.length_append, List.length_cons]
      omega
  have added : (addedLines netOf m).flatten.length =
      placeRow.length + (calls netOf m.enabled).length := by
    rw [addedLines, List.flatten_cons, List.length_append, calls, Module.enabled,
      List.flatMap_def]
  have body := congrArg List.length (trimmed_body netOf m [])
  have least := length_trimmed sound []
  rw [text, lines, added] at least
  simp only [List.length_append, List.length_cons, List.length_nil] at body least
  have middle (front own back : List Char) : own.length ≤ (front ++ own ++ back).length := by
    rw [List.length_append, List.length_append]
    omega
  have function : (dropTrailing '\n' (m.body netOf)).length ≤ (m.function netOf).length :=
    middle _ _ _
  have closing : (m.function netOf).length ≤ (m.closing netOf).length :=
    middle _ _ _
  have place : 1 ≤ placeRow.length := by decide
  rw [toList_codeWith, List.length_append, List.length_append]
  omega

end Lengths

section Whole

open Script (arrowTokens assignTokens bodyTokens bodyTrees checkTokens exportProgram exportsTokens
  flipTokens joinTokens listTokens moduleTokens paramsTrees programTokens pushLine pushTokens quote
  resultTokens sign word)

variable {netOf : String → String}

/-- What a script has after the lines of a module. -/
def afterLine : List Char :=
  "    fp.push(')');\n    return fp.join('\\n');\n  \x7d\n\x7d\n\nmodule.exports;".toList

theorem closing_append (m : Module) : m.closing netOf ++ "\nmodule.exports;".toList =
    "  \x7d,\n  body: p => \x7b\n    const fp = [];\n    ".toList ++
      (Module.flipLine m.side ++ Module.sideLine m.side ++ Statement.call netOf m.header ++
        trimmed afterLine (m.afterHeader netOf)) := by
  have pieces {open' function body dropped returns close last front tail : List Char}
      (first : front = open' ++ function) (second : '\n' :: tail = returns ++ (close ++ last))
      (same : dropped ++ '\n' :: tail = body) :
      open' ++ (function ++ dropped ++ returns) ++ close ++ last = front ++ body := by
    rw [first, ← same, second]
    simp only [List.append_assoc]
  exact pieces (by decide +kernel) (by decide +kernel) (trimmed_body netOf m afterLine)

theorem lexed_front (rest : List Char) :
    Lexed ⟨[], false, (wrapping ++ beforeDesignator) ++ rest⟩
      (moduleTokens ++ (exportsTokens ++ (assignTokens ++ [sign "\x7b", word "params" true, sign ":",
        sign "\x7b", word "designator" true, sign ":"]))) (within false rest) :=
  Lexed.scan 70 ⟨_, _, _⟩ (by decide +kernel) rest

theorem lexed_designator {designator : List Char} (unbroken : Script.isUnbroken designator = true) :
    ∃ exact, ∀ rest, Lexed (within false (Script.singleQuoted designator ++ rest))
      [(.text (unitsOfChars designator) exact false, false)] (within false rest) := by
  obtain ⟨exact, read⟩ := Script.readToken_singleQuoted designator
  refine ⟨exact, fun rest => ?_⟩
  obtain ⟨opens, own⟩ := read rest
  rw [if_pos unbroken] at own
  exact .token opens own rfl

theorem lexed_side (side : Side) (rest : List Char) :
    Lexed (within false (sideMember side ++ '\n' :: rest))
      [sign ",", word "side" true, sign ":", quote (units side.letter), sign ","]
      (within true rest) := by
  have split : sideMember side ++ '\n' :: rest = (sideMember side ++ ['\n']) ++ rest := by simp
  rw [split]
  cases side <;>
    exact Lexed.scan 30 ⟨_, _, _⟩ (by decide +kernel) rest

/-- The tokens of the routine up to its first template. -/
def openingTokens (side : Side) : List (Token × Bool) :=
  [sign "\x7d" true, sign ",", word "body" true, sign ":", word "p", sign "=>", sign "\x7b"] ++
    (listTokens ++ (flipTokens (units side.opposite.letter) ++
      (checkTokens (units side.letter) ++ pushTokens true)))

theorem lexed_opening (side : Side) (rest : List Char) :
    Lexed (within true ("  \x7d,\n  body: p => \x7b\n    const fp = [];\n    ".toList ++
      (Module.flipLine side ++ Module.sideLine side ++ "fp.push(".toList) ++ rest))
        (openingTokens side) (within false rest) := by
  cases side <;>
    exact Lexed.scan 200 ⟨_, _, _⟩ (by decide +kernel) rest

theorem lexed_place (rest : List Char) :
    Lexed (within false ('\n' :: placeRow ++ rest)) (pushLine [word "p", sign ".", word "at"])
      (within false rest) :=
  Lexed.scan 30 ⟨_, _, _⟩ (by decide +kernel) rest

/-- The tokens after the lines of a module. -/
def closingTokens : List (Token × Bool) :=
  pushLine [quote (units ")")] ++ (joinTokens ++ (sign "\x7d" true ::
    sign "\x7d" true :: resultTokens))

theorem lexed_closing :
    Lexed (within false ('\n' :: afterLine)) closingTokens ⟨[], false, []⟩ := by
  have front (rest : List Char) :
      Lexed (within false ("\n    fp.push(')');\n    return fp.join(".toList ++ rest))
        (pushLine [quote (units ")")] ++ [word "return" true, word "fp", sign ".", word "join",
          sign "("]) (within false rest) :=
    Lexed.scan 70 ⟨_, _, _⟩ (by decide +kernel) rest
  have back : Lexed (within false (");\n  \x7d\n\x7d\n\nmodule.exports;".toList ++ []))
      (sign ")" :: sign ";" :: sign "\x7d" true :: sign "\x7d" true :: resultTokens)
        ⟨[], false, []⟩ :=
    Lexed.scan 70 ⟨_, _, _⟩ (by decide +kernel) []
  have text : Lexed (within false ("'\\n'".toList ++ (");\n  \x7d\n\x7d\n\nmodule.exports;".toList ++ [])))
      [(.text (units "\n") false false, false)]
        (within false (");\n  \x7d\n\x7d\n\nmodule.exports;".toList ++ [])) :=
    Lexed.token (Script.opensToken_of rfl rfl (by decide) _) (by decide +kernel) rfl
  have whole := ((front _).append text).append back
  have chars : "\n    fp.push(')');\n    return fp.join(".toList ++ ("'\\n'".toList ++
      (");\n  \x7d\n\x7d\n\nmodule.exports;".toList ++ [])) = '\n' :: afterLine := by decide +kernel
  rw [chars] at whole
  exact whole

/-- The members of the parameters after the designator. -/
def paramFields (m : Module) (defaults : List (String × String)) : List (Units × Script.Tree) :=
  (units "side", .constant (.text (units m.side.letter))) :: m.nets.map (netField defaults)

/-- The routine of a module. -/
def routineTrees (netOf : String → String) (m : Module) : List Script.Tree :=
  bodyTrees (units m.side.opposite.letter) (units m.side.letter) (literalTree netOf m.header)
    (m.enabled.map fun statement => literalTree netOf statement.fragments)

def moduleProgram (netOf : String → String) (m : Module) (defaults : List (String × String)) :
    Script.Program :=
  exportProgram (paramsTrees (units m.designator) (paramFields m defaults)) (routineTrees netOf m)

/-- A module that a script can be read from. -/
structure Module.IsRead (netOf : String → String) (m : Module) (defaults : List (String × String)) :
    Prop where
  header : Guarded m.header
  guarded : ∀ statement ∈ m.statements, Guarded statement.fragments
  enclosed : m.isEnclosed = true
  script : m.isScript = true
  once : m.nets.Nodup
  short : (m.codeWith netOf (Preview.defaultChars defaults)).toList.length < Script.indexLimit

theorem Module.IsRead.few {m : Module} {defaults : List (String × String)}
    (read : m.IsRead netOf defaults) :
    m.nets.length + (Statement.call netOf m.header).length + (calls netOf m.enabled).length <
      4294967295 :=
  Nat.lt_of_le_of_lt (length_codeWith read.enclosed read.guarded _) read.short

theorem length_call_le (netOf : String → String) {statements : List Statement} {statement : Statement}
    (member : statement ∈ statements) :
    (Statement.call netOf statement.fragments).length ≤ (calls netOf statements).length := by
  rw [calls, List.flatMap_def]
  have own : Statement.call netOf statement.fragments ∈
      statements.map fun statement => Statement.call netOf statement.fragments :=
    List.mem_map_of_mem member
  exact (List.sublist_flatten_of_mem own).length_le

theorem length_le_calls (netOf : String → String) (statements : List Statement) :
    statements.length ≤ (calls netOf statements).length := by
  induction statements with
  | nil => exact Nat.zero_le _
  | cons statement rest ih =>
    rw [calls, List.flatMap_cons, List.length_append, length_call, List.length_cons]
    rw [calls] at ih
    omega

theorem Module.IsRead.isScript_enabled {m : Module} {defaults : List (String × String)}
    (read : m.IsRead netOf defaults) :
    ∀ statement ∈ m.enabled, statement.fragments.all Template.Fragment.isScript = true := by
  intro statement member
  obtain ⟨own, enabled⟩ := List.mem_filter.mp member
  have script := read.script
  rw [Module.isScript, Bool.and_eq_true] at script
  have one := List.all_eq_true.mp script.2 statement own
  rw [Statement.isScript] at one
  have apart : statement.disabled = false := by simpa using enabled
  rwa [apart, Bool.false_or] at one

theorem Lexed.of_eq {start stop : Standing} {tokens more : List (Token × Bool)}
    (same : tokens = more) (lexed : Lexed start more stop) : Lexed start tokens stop :=
  same ▸ lexed

/-- The tokens of a whole module. -/
theorem exists_tokens {m : Module} {defaults : List (String × String)}
    (read : m.IsRead netOf defaults) : ∃ exact fields header lines,
      LexesNets defaults m.nets fields ∧ IsTemplate header (literalTree netOf m.header) ∧
      header.length ≤ manyTokens * (Statement.call netOf m.header).length ∧
      ReadsLines netOf m.enabled afterLine lines ∧
      Lexed ⟨[], false, (Preview.Session.wrapped
          (m.codeWith netOf (Preview.defaultChars defaults))).toList⟩
        (programTokens (units m.designator) exact
          (⟨.name "side" false, [quote (units m.side.letter)]⟩ :: fields)
            (arrowTokens (units m.side.opposite.letter) (units m.side.letter) header lines))
          ⟨[], false, []⟩ := by
  have few := read.few
  have script := read.script
  rw [Module.isScript, Bool.and_eq_true, Bool.and_eq_true] at script
  have fewPlaces (fragments : List Template.Fragment) := length_places netOf fragments
  have many : 4294967295 < Script.maxParts := Nat.le_of_ble_eq_true rfl
  obtain ⟨exact, designator⟩ := lexed_designator script.1.1
  obtain ⟨fields, nets⟩ := exists_nets defaults m.nets
  let added := trimmed afterLine (m.afterHeader netOf)
  obtain ⟨header, headerReads⟩ := read.header.exists_tokens netOf script.1.2
    (by
      have own := fewPlaces m.header
      rw [length_call] at few
      omega) (");".toList ++ added)
  obtain ⟨lines, reads⟩ := exists_lines netOf m.enabled
    (fun statement member => read.guarded statement (List.mem_filter.mp member).1)
    read.isScript_enabled
    (fun statement member => by
      have own := fewPlaces statement.fragments
      have call := length_call_le netOf member
      rw [length_call] at call
      omega) afterLine
  have shortHeader := ReadsLiteral.length headerReads
  rw [pushLine, List.length_append, List.length_append] at shortHeader
  refine ⟨exact, fields, header, lines, nets, headerReads.isTemplate, by omega, reads, ?_⟩
  have goesOn : Lexed (within false added) (pushLine [word "p", sign ".", word "at"] ++
      ((lines.map pushLine).flatten ++ closingTokens)) ⟨[], false, []⟩ := by
    have same (count : Nat) : (within false added).lexemes count =
        (within false (onLines (addedLines netOf m) afterLine)).lexemes count :=
      alike_addedLines netOf read.enclosed read.guarded [false, false] afterLine count false
    refine Lexed.congr same ?_
    have text : onLines (addedLines netOf m) afterLine = '\n' :: placeRow ++
        onLines (m.enabled.map fun statement => Statement.call netOf statement.fragments)
          afterLine := by
      rw [onLines, onLines, addedLines, List.flatMap_cons, List.append_assoc]
    rw [text]
    exact (lexed_place _).append (reads.lexed.append lexed_closing)
  have pieces {front flip call rest opening template : List Char}
      (same : call ++ rest = opening ++ template) :
      front ++ (flip ++ call ++ rest) = front ++ (flip ++ opening) ++ template := by
    rw [List.append_assoc flip, same]
    simp only [List.append_assoc]
  have routine := (lexed_opening m.side _).append ((headerReads.lexed [false, false]).append
    ((lexed_closed added).append goesOn))
  rw [← pieces (Writer.call_append netOf m.header added), ← closing_append] at routine
  have whole := (lexed_front _).append ((designator _).append ((lexed_side m.side _).append
    ((nets.lexed _).append routine)))
  rw [toList_wrapped, wrapping_opening]
  refine Lexed.of_eq ?_ whole
  simp only [programTokens, Script.exportTokens, Script.paramsTokens, arrowTokens, bodyTokens,
    Script.FieldTokens.all, openingTokens, closingTokens, pushLine, List.flatMap_cons,
    List.append_assoc, List.cons_append,
    List.nil_append, List.append_cancel_left_eq]
  rfl

/-- The script of a module is read as its parameters and its routine. -/
theorem parse_wrapped {m : Module} {defaults : List (String × String)}
    (read : m.IsRead netOf defaults) :
    Script.parse (Preview.Session.wrapped
      (m.codeWith netOf (Preview.defaultChars defaults))).toList =
        some (moduleProgram netOf m defaults) := by
  obtain ⟨exact, fields, header, lines, nets, isHeader, shortHeader, reads, lexed⟩ :=
    exists_tokens read
  have few := read.few
  have many : 2 ^ 60 ≤ Script.maxParts := Nat.le_refl _
  have enabled := length_le_calls netOf m.enabled
  refine lexed.parse_export ?_ (.cons ?_ nets.areFields) ?_ ?_ isHeader reads.areTemplates ?_
  · have short := reads.few
    have fields := nets.few
    change _ ≤ manyTokens * (calls netOf m.enabled).length at short
    unfold manyTokens Script.manyTokens at short shortHeader
    simp only [programTokens, Script.exportTokens, Script.paramsTokens, arrowTokens, bodyTokens,
      Script.FieldTokens.all, pushLine, List.flatMap_cons, List.length_append, List.length_cons,
      List.length_nil, exportsTokens, moduleTokens, assignTokens, resultTokens, listTokens,
      flipTokens, checkTokens, joinTokens, pushTokens, Script.pushTokens] at short fields ⊢
    omega
  · exact ⟨.name "side", Script.readsMember_text _ true⟩
  · have names : (paramFields m defaults).map Prod.fst = units "side" :: m.nets.map units := by
      simp [paramFields, netField, Function.comp_def]
    have apart : units "side" ≠ units "__proto__" := by decide
    rw [names, List.count_cons_of_ne apart]
    exact List.nodup_iff_count_le_one.mp (read.once.map Text.units_injective) _
  · rw [paramFields, List.length_cons, List.length_map]
    omega
  · rw [List.length_map]
    omega
end Whole

end FootprintTemplate
