import FootprintTemplate.Proofs.Script.Scanned
import Mathlib.Data.List.Forall2

/-! Template literals in a script. Their expressions are read as trees, up to the brace that closes
each of them, and the whole literal as a template of these trees. -/
namespace FootprintTemplate.Script

open Number (Double Literal isAsciiDigit mirroredSigns)
open Text (Units unitsOfChars)

section Readers

variable {α β : Type} {cursor after : Cursor}

theorem Reader.bind_some {read : Reader α} {value : α} (found : read cursor = some (value, after))
    (next : α → Reader β) : (read >>= next) cursor = next value after := by
  simp only [bind, StateT.bind, found]
  rfl

theorem Reader.bind_none {read : Reader α} (failed : read cursor = none) (next : α → Reader β) :
    (read >>= next) cursor = none := by
  simp only [bind, StateT.bind, failed]
  rfl

theorem ofLined_inline (tokens : List Token) (tail : Lexemes) :
    ofLined (tokens.map fun token => (token, false)) tail = ofTokens tokens tail := by
  induction tokens with
  | nil => rfl
  | cons token rest ih => exact congrArg (Lexemes.read token false · _) (funext fun _ => ih)

end Readers

section Values

/-- A closing brace on the line, and what follows it. -/
def closing (tail : Lexemes) : Lexemes :=
  ofLined [(.mark "\x7d", false)] tail

/-- In the body of a routine these tokens are read as a value, up to a closing brace. -/
def ReadsValue (tokens : List Token) (value : Tree) : Prop :=
  ∀ depth tail hoisted secrets,
    readSequence (grammar (depth + 40)) { returns := true }
      ⟨ofTokens tokens (closing tail), hoisted, secrets⟩ =
        some (value, ⟨closing tail, hoisted, secrets⟩)

/-- More tokens than any value in a template has. -/
def manyTokens : Nat :=
  20

/-- A text inside a substitution is read as a value, whatever braces are around it. -/
def IsValue (chars : List Char) (value : Tree) : Prop :=
  ∃ tokens, ReadsValue tokens value ∧ tokens.length ≤ manyTokens ∧
    ∀ braces rest, Begins braces (chars ++ '\x7d' :: rest) tokens ('\x7d' :: rest)

variable {sign : List Char} (isSign : sign ∈ [[], ['+'], ['-']])

include isSign in
theorem readsValue_choice (value : Double) :
    ReadsValue (choiceTokens (signTokens (mirroredSigns sign) ++ Token.number value false ::
        .mark ":" :: (signTokens sign ++ [Token.number value false, .mark ")"])))
      (chosen (signedNumber (mirroredSigns sign) value) (signedNumber sign value)) := by
  simp only [List.mem_cons, List.not_mem_nil, or_false] at isSign
  obtain rfl | rfl | rfl := isSign <;> exact fun _ _ _ _ => rfl

include isSign in
theorem readsValue_turned (value : Double) :
    ReadsValue (turnedTokens (signTokens sign ++ Token.number value false :: afterDelta))
      (turned (signedNumber sign value) (.constant (.number fullTurn))) := by
  simp only [List.mem_cons, List.not_mem_nil, or_false] at isSign
  obtain rfl | rfl | rfl := isSign <;> exact fun _ _ _ _ => rfl

theorem readsValue_chosenText (flipped plain : Units) (exact other : Bool) :
    ReadsValue (choiceTokens [.text flipped exact false, .mark ":", .text plain other false,
        .mark ")"])
      (chosen (.constant (.text flipped)) (.constant (.text plain))) :=
  fun _ _ _ _ => rfl

theorem readsValue_bareChoice (flipped plain : Units) (exact other : Bool) :
    ReadsValue [.name "flip" false, .mark "?", .text flipped exact false, .mark ":",
        .text plain other false]
      (.choice (.name "flip") (.constant (.text flipped)) (.constant (.text plain))) :=
  fun _ _ _ _ => rfl

/-- The member of the argument with a name. -/
def memberTree (name : Units) : Tree :=
  .member (.name "p") (.constant (.text name))

theorem readsValue_member (name : String) :
    ReadsValue [.name "p" false, .mark ".", .name name false] (memberTree (Text.units name)) :=
  fun _ _ _ _ => rfl

theorem readsValue_index (name : Units) (exact : Bool) :
    ReadsValue [.name "p" false, .mark "[", .text name exact false, .mark "]"] (memberTree name) :=
  fun _ _ _ _ => rfl

end Values

section Texts

theorem Begins.bracket {braces : List Bool} {next rest : List Char} {tokens : List Token}
    (more : Begins braces next tokens rest) (mark : Char) (isMark : mark ∈ ['[', ']']) :
    Begins braces (mark :: next) (.mark (String.singleton mark) :: tokens) rest := by
  have lone : mark ∈ loneMarks := by
    simp only [List.mem_cons, List.not_mem_nil, or_false] at isMark
    obtain rfl | rfl := isMark <;> decide
  have starts := startsToken_lone lone next
  refine more.token starts.opens starts.read ?_
  simp only [List.mem_cons, List.not_mem_nil, or_false] at isMark
  obtain rfl | rfl := isMark <;> rfl

variable {literal : Literal} {chars : List Char}

theorem isValue_choice (read : Literal.read? chars = some literal)
    (ascii : Number.isAscii literal.body = true) :
    IsValue (choiceText (Number.mirrorChars chars) chars)
      (chosen (signedNumber (mirroredSigns literal.sign.toList) literal.magnitude)
        (signedNumber literal.sign.toList literal.magnitude)) := by
  have formed := Literal.formed_of_read? read
  obtain ⟨isSign, plain, mirrored, -⟩ := sign_cases formed.sign
  obtain ⟨own, other⟩ := Number.spelling_of_read? read
  have few := few_signs mirrored
  have fewToo := few_signs plain
  refine ⟨_, readsValue_choice isSign literal.magnitude, ?_, fun braces rest => ?_⟩
  · simp [choiceTokens, manyTokens]
    omega
  have whole := (Begins.nil braces ('\x7d' :: rest)).numberChoice (formed.ascii ascii) mirrored plain
  rw [other, own, choiceText_append]
  simpa only [List.append_assoc, List.cons_append, List.nil_append] using whole

theorem endsNumber_brace (rest : List Char) : EndsNumber ('\x7d' :: rest) := by
  rintro _ ⟨⟩
  exact ⟨rfl, by decide, (outside_names (by decide)).1, by decide⟩

theorem isValue_turned (read : Literal.read? chars = some literal)
    (ascii : Number.isAscii literal.body = true) :
    IsValue (turnedText chars)
      (turned (signedNumber literal.sign.toList literal.magnitude)
        (.constant (.number fullTurn))) := by
  have formed := Literal.formed_of_read? read
  obtain ⟨isSign, plain, -⟩ := sign_cases formed.sign
  have few := few_signs plain
  refine ⟨_, readsValue_turned isSign literal.magnitude, ?_, fun braces rest => ?_⟩
  · simp [turnedTokens, afterDelta, manyTokens]
    omega
  have after := (Begins.nil braces ('\x7d' :: rest)).afterDelta (endsNumber_brace rest)
  have last := after.number (formed.ascii ascii) (endsNumber_mark (by decide) _)
  have whole := (last.signs (startsNumber_body (formed.ascii ascii) _) plain).turned
  rw [(Number.spelling_of_read? read).1, turnedText_append]
  simpa only [List.append_assoc, List.append_nil] using whole

theorem isValue_chosenText (flipped plain : List Char) :
    IsValue (choiceText (stringLiteral flipped) (stringLiteral plain)) (chosenText flipped plain) := by
  obtain ⟨exact, one⟩ := Begins.string flipped
  obtain ⟨other, another⟩ := Begins.string plain
  refine ⟨_, readsValue_chosenText _ _ exact other, Nat.le_of_ble_eq_true rfl, fun braces rest => ?_⟩
  have right := another ((Begins.nil braces ('\x7d' :: rest)).parenthesis ')' (by decide))
  have whole := (one (right.operator ':' (by decide)).space).choice
  have text (front colon : List Char) :
      front ++ (stringLiteral flipped ++ (colon ++ (stringLiteral plain ++ [')']))) ++ '\x7d' :: rest =
        front ++ (stringLiteral flipped ++ (colon ++ (stringLiteral plain ++ ')' :: '\x7d' :: rest))) := by
    simp only [List.append_assoc, List.singleton_append]
  exact (text _ [' ', ':', ' ']).symm ▸ whole

/-- A choice that is not in parentheses, after a blank. -/
theorem isValue_bareChoice (flipped plain : List Char) :
    IsValue (" flip ? ".toList ++ stringLiteral flipped ++ " : ".toList ++ stringLiteral plain)
      (.choice (.name "flip") (.constant (.text (unitsOfChars flipped)))
        (.constant (.text (unitsOfChars plain)))) := by
  obtain ⟨exact, one⟩ := Begins.string flipped
  obtain ⟨other, another⟩ := Begins.string plain
  refine ⟨_, readsValue_bareChoice _ _ exact other, Nat.le_of_ble_eq_true rfl, fun braces rest => ?_⟩
  have right := another (Begins.nil braces ('\x7d' :: rest))
  have left := one (right.operator ':' (by decide)).space
  have whole := ((left.operator '?' (by decide)).space.word "flip" rfl
    (endsName_cons (by decide) _)).space
  have text (front colon : List Char) :
      front ++ stringLiteral flipped ++ colon ++ stringLiteral plain ++ '\x7d' :: rest =
        front ++ (stringLiteral flipped ++ (colon ++ (stringLiteral plain ++ '\x7d' :: rest))) := by
    simp only [List.append_assoc]
  exact (text _ [' ', ':', ' ']).symm ▸ whole

theorem isValue_member (name : List Char) :
    IsValue (propertyAccess ['p'] name) (memberTree (unitsOfChars name)) := by
  unfold propertyAccess
  split
  · rename_i identifier
    obtain ⟨text, rfl⟩ : ∃ text : String, name = text.toList := ⟨_, String.toList_ofList.symm⟩
    refine ⟨_, readsValue_member text, Nat.le_of_ble_eq_true rfl, fun braces rest => ?_⟩
    have starts : ∀ d ∈ (text.toList ++ '\x7d' :: rest).head?, d.isDigit = false ∧ d ≠ '.' :=
      fun d first => (plain_of_isNameStart (isNameStart_head identifier d first)).2.2.2
    have last := (Begins.nil braces ('\x7d' :: rest)).word text identifier
      (endsName_cons (by decide) rest)
    exact (last.point starts).word "p" rfl (endsName_cons (by decide) _)
  · obtain ⟨exact, member⟩ := Begins.string name
    refine ⟨_, readsValue_index _ exact, Nat.le_of_ble_eq_true rfl, fun braces rest => ?_⟩
    have last := member ((Begins.nil braces ('\x7d' :: rest)).bracket ']' (by decide))
    have whole := (last.bracket '[' (by decide)).word "p" rfl (endsName_cons (by decide) _)
    have text : ['p'] ++ '[' :: (stringLiteral name ++ [']']) ++ '\x7d' :: rest =
        "p".toList ++ '[' :: (stringLiteral name ++ ']' :: '\x7d' :: rest) := by simp
    rw [text]
    exact whole

end Texts

section Templates

/-- The template that a literal with these contents is, with the trees of its expressions. -/
def templateTree (contents : Contents) (values : List Tree) : Tree :=
  .template contents.run ((values.zip contents.more).map fun (value, part) => .stretch value part.2)

/-- Reads what follows the first text of a template. -/
def readAfter (g : Grammar) (final : Bool) (fuel : Nat) :
    Reader (List (Tree × Option Units × Units)) :=
  if final then pure [] else readStretches.go g { returns := true } fuel

/-- A literal after its opening quote: the token of its first text, and the tokens of its values and
of the texts after them. -/
structure TemplateTokens (chars : List Char) (contents : Contents) (values : List Tree)
    (first : Token) (more : List (Token × Bool)) (rest : List Char) : Prop where
  text : ∃ written, first = .template (some contents.run) written contents.more.isEmpty
  few : more.length ≤ (manyTokens + 2) * contents.more.length
  lexed : ∀ braces, ∃ after, readTemplate chars = (first, after) ∧ ∀ count,
    lexemes (count + more.length) (Position.after ⟨false, braces⟩ first) after =
      ofLined more (lexemes count ⟨false, braces⟩ rest)
  reads : ∃ parts : List (Tree × Option Units × Units),
    parts.map (fun part => (part.1, part.2.1)) =
      (values.zip contents.more).map (fun (value, part) => (value, some part.2)) ∧
    ∀ depth fuel tail hoisted secrets, contents.more.length < fuel →
      readAfter (grammar (depth + 40)) contents.more.isEmpty fuel
        ⟨ofLined more tail, hoisted, secrets⟩ = some (parts, ⟨tail, hoisted, secrets⟩)

/-- `readStretches.go` after the text that follows a value. -/
theorem goesOn_some {g : Grammar} {final : Bool} {fuel : Nat} {cursor after : Cursor} {β : Type}
    {parts : List (Tree × Option Units × Units)}
    (read : readAfter g final fuel cursor = some (parts, after))
    (next : List (Tree × Option Units × Units) → Reader β) :
    (if final = true then (pure [] : Reader _) >>= next
      else readStretches.go g { returns := true } fuel >>= next) cursor = next parts after := by
  cases final with
  | true =>
    cases read
    rfl
  | false => exact Reader.bind_some read next

theorem StartsStretch.readTemplate {chars : List Char} {stretch : Stretch}
    (starts : StartsStretch chars stretch) : readTemplate chars =
      (.template stretch.value stretch.written stretch.final, stretch.rest) := by
  rw [Script.readTemplate, starts _ (Nat.lt_succ_self _)]

/-- The brace after a value and the text after it. -/
theorem lexemes_closeValue {braces : List Bool} {after left : List Char} {token : Token}
    (read : readTemplate after = (token, left)) (count : Nat) :
    lexemes (count + 2) ⟨false, true :: braces⟩ ('\x7d' :: after) =
      ofLined [(.mark "\x7d", false), (token, false)]
        (lexemes count (Position.after ⟨false, braces⟩ token) left) := by
  have brace := startsToken_lone (by decide : '\x7d' ∈ loneMarks) after
  have first : lexemes (count + 1 + 1) ⟨false, true :: braces⟩ (onLine false ('\x7d' :: after)) = _ :=
    lexemes_token brace.opens (count + 1) false
  rw [brace.read] at first
  have text : lexemeAt ⟨true, braces⟩ after = ⟨token, false, [], left⟩ := by
    rw [lexemeAt, if_pos rfl, read]
  have second : lexemes (count + 1) ⟨true, braces⟩ after =
      ofLined [(token, false)] (lexemes count (Position.after ⟨false, braces⟩ token) left) := by
    rw [lexemes, text]
    rfl
  exact first.trans (congrArg (Lexemes.read _ false · _) (funext fun _ => second))

theorem ReadsTemplate.tokens {chars rest : List Char} {contents : Contents}
    (template : ReadsTemplate chars contents rest) {values : List Tree}
    (areValues : List.Forall₂ (fun value part => IsValue part.1 value) values contents.more) :
    ∃ first more, TemplateTokens chars contents values first more rest := by
  induction template generalizing values with
  | final read =>
    cases areValues
    refine ⟨_, [], ⟨_, rfl⟩, Nat.zero_le _, fun braces => ⟨_, read.readTemplate, fun count => rfl⟩,
      [], rfl, fun _ _ _ _ _ _ => rfl⟩
  | @substitution chars expression after rest run written contents read closes _ ih =>
    cases areValues with
    | @cons value _ values _ isValue others =>
    obtain ⟨tokens, reads, short, begins⟩ := isValue
    obtain ⟨first, more, ⟨writtenText, rfl⟩, few, lexed, parts, shape, goesOn⟩ := ih others
    let next : Token := .template (some contents.run) writtenText contents.more.isEmpty
    refine ⟨.template (some run) written false,
      tokens.map (fun token => (token, false)) ++ [(.mark "\x7d", false), (next, false)] ++ more,
      ⟨written, by simp [Contents.prepend, Contents.substitute]⟩, ?_, fun braces => ?_,
      (value, some contents.run, writtenText) :: parts, ?_, ?_⟩
    · change _ ≤ (manyTokens + 2) * (contents.more.length + 1)
      simp only [List.length_append, List.length_map, List.length_cons, List.length_nil]
      rw [Nat.mul_succ]
      omega
    · obtain ⟨left, readMore, tail⟩ := lexed braces
      refine ⟨_, read.readTemplate, fun count => ?_⟩
      have own := begins (true :: braces) after (count + more.length + 2)
      have count_eq : count + (tokens.map (fun token => (token, false)) ++
          [(.mark "\x7d", false), (next, false)] ++ more).length =
            count + more.length + 2 + tokens.length := by
        simp only [List.length_append, List.length_map, List.length_cons, List.length_nil]
        omega
      rw [ofLined_append, ofLined_append, ← tail, ← lexemes_closeValue readMore, ofLined_inline,
        ← own, count_eq]
      rfl
    · exact congrArg ((value, some contents.run) :: ·) shape
    · intro depth fuel tail hoisted secrets enough
      cases fuel with
      | zero => cases enough
      | succ fuel =>
        have rest := goesOn depth fuel tail hoisted secrets (Nat.lt_of_succ_lt_succ enough)
        have sequence := reads depth (.read next false (fun _ => ofLined more tail) fun _ => .done)
          hoisted secrets
        rw [List.append_assoc, ofLined_append, ofLined_inline]
        refine (Reader.bind_some sequence _).trans ?_
        exact goesOn_some rest fun parts => pure ((value, some contents.run, writtenText) :: parts)

theorem mapM_stretches {parts : List (Tree × Option Units × Units)}
    {values : List (Tree × List Char × Units)}
    (same : parts.map (fun part => (part.1, part.2.1)) =
      values.map fun (value, part) => (value, some part.2)) (cursor : Cursor) :
    (parts.mapM (m := Reader) fun (value, text, _) => do
      match text with
      | some text => return Tree.stretch value text
      | none => failure) cursor =
        some (values.map fun (value, part) => .stretch value part.2, cursor) := by
  induction parts generalizing values with
  | nil =>
    cases values with
    | nil => rfl
    | cons => cases same
  | cons part rest ih =>
    cases values with
    | nil => cases same
    | cons value values =>
      obtain ⟨own, others⟩ := List.cons.inj same
      obtain ⟨tree, text, written⟩ := part
      cases own
      rw [List.mapM_cons]
      exact (Reader.bind_some rfl _).trans (Reader.bind_some (ih others) _)

/-- A template literal is read as the template of its values. -/
theorem ReadsTemplate.reads {chars rest : List Char} {contents : Contents} {values : List Tree}
    (template : ReadsTemplate chars contents rest)
    (areValues : List.Forall₂ (fun value part => IsValue part.1 value) values contents.more)
    (few : contents.more.length < maxParts) : ∃ run written final more,
      more.length ≤ (manyTokens + 2) * contents.more.length ∧
      (∀ braces crossed, Lexed ⟨braces, crossed, '\x60' :: chars⟩
        ((.template run written final, crossed) :: more) ⟨braces, false, rest⟩) ∧
      ∀ depth crossed tail hoisted secrets,
        readTemplateValue (grammar (depth + 40)) { returns := true }
          ⟨ofLined ((.template run written final, crossed) :: more) tail, hoisted, secrets⟩ =
            some (templateTree contents values, ⟨tail, hoisted, secrets⟩) := by
  obtain ⟨first, more, ⟨written, rfl⟩, short, lexed, parts, shape, goesOn⟩ := template.tokens areValues
  refine ⟨some contents.run, written, contents.more.isEmpty, more, short, fun braces crossed count => ?_,
    fun depth crossed tail hoisted secrets => ?_⟩
  · obtain ⟨after, read, tail⟩ := lexed braces
    have quote : OpensToken ('\x60' :: chars) ∧ readToken ('\x60' :: chars) = readTemplate chars := by
      have noName : startsName '\x60' = false := (outside_tokens (by decide)).1
      exact ⟨opensToken_of rfl rfl (by decide) _, by simp [readToken, noName]⟩
    have own : lexemes (count + more.length + 1) ⟨false, braces⟩ (onLine crossed ('\x60' :: chars)) = _ :=
      lexemes_token quote.1 (count + more.length) crossed
    rw [quote.2, read] at own
    exact own.trans (congrArg (Lexemes.read _ crossed · _) (funext fun _ => tail count))
  · have rest := goesOn depth maxParts tail hoisted secrets few
    have own : readTemplateParts (grammar (depth + 40)) { returns := true }
        ⟨ofLined ((.template (some contents.run) written contents.more.isEmpty, crossed) :: more) tail,
          hoisted, secrets⟩ = some (((some contents.run, written), parts), ⟨tail, hoisted, secrets⟩) :=
      goesOn_some rest fun rest => pure ((some contents.run, written), rest)
    exact (Reader.bind_some own _).trans (Reader.bind_some (mapM_stretches shape _) _)

end Templates

end FootprintTemplate.Script
