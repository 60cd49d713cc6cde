import FootprintTemplate.Proofs.Script.Alike
import FootprintTemplate.Proofs.Script.Numeral
import FootprintTemplate.Template.Fragment

/-! Expressions around a number. What a script reads where a number of the source is chosen by the face
or added to the rotation: the number and its signs as operands, or nothing at all. -/
namespace FootprintTemplate.Script

open Number (Double Literal isAsciiDigit mirroredSigns)

section Begins

/-- Tokens on one line, with something behind them. -/
def ofTokens (tokens : List Token) (tail : Lexemes) : Lexemes :=
  tokens.foldr (fun token next => .read token false (fun _ => next) fun _ => .done) tail

/-- Within these braces a script starts with these tokens, up to the rest of its text. -/
def Begins (braces : List Bool) (chars : List Char) (tokens : List Token) (rest : List Char) :
    Prop :=
  ∀ count, lexemes (count + tokens.length) ⟨false, braces⟩ chars =
    ofTokens tokens (lexemes count ⟨false, braces⟩ rest)

/-- What is read from the tokens at the start of a script. -/
def readTokens (tokens : List Token) (tail : Lexemes) : Option Program :=
  ((readProgram (grammar maxParts) {}).run ⟨ofTokens tokens tail, [], []⟩).map Prod.fst

theorem Begins.parse {chars rest : List Char} {tokens : List Token}
    (begins : Begins [] chars tokens rest) (few : tokens.length ≤ maxParts) :
    ∃ tail, parse chars = readTokens tokens tail := by
  refine ⟨lexemes (maxParts - tokens.length) {} rest, ?_⟩
  have own := begins (maxParts - tokens.length)
  rw [Nat.sub_add_cancel few] at own
  rw [Script.parse, parseIn, own, readTokens]

variable {braces : List Bool} {chars next rest : List Char} {tokens : List Token}

theorem Begins.nil (braces : List Bool) (rest : List Char) : Begins braces rest [] rest :=
  fun _ => rfl

theorem Begins.token {token : Token} (more : Begins braces next tokens rest) (opens : OpensToken chars)
    (read : readToken chars = (token, next))
    (stays : Position.after ⟨false, braces⟩ token = ⟨false, braces⟩) :
    Begins braces chars (token :: tokens) rest := by
  intro count
  have first : lexemes (count + tokens.length + 1) ⟨false, braces⟩ (onLine false chars) = _ :=
    lexemes_token opens (count + tokens.length) false
  rw [read, stays, more count] at first
  exact first

theorem Begins.space (begins : Begins braces chars tokens rest) :
    Begins braces (' ' :: chars) tokens rest := by
  intro count
  have same : lexemeAt ⟨false, braces⟩ (' ' :: chars) = lexemeAt ⟨false, braces⟩ chars := rfl
  rw [lexemes_congr same, begins count]

theorem Begins.finish : Begins [] [] [.finish] [] :=
  (Begins.nil [] []).token nofun rfl rfl

theorem Begins.word (more : Begins braces next tokens rest) (word : String)
    (identifier : isIdentifier word.toList = true) (ends : EndsName next) :
    Begins braces (word.toList ++ next) (.name word false :: tokens) rest := by
  have read := readToken_name identifier ends
  rw [String.ofList_toList] at read
  exact more.token (opensToken_name identifier next) read rfl

/-- Marks that stand alone before a blank. -/
def operators : List Char :=
  ['?', ':', '+', '%']

theorem startsName_mark {c : Char} (isMark : c ∈ ['?', ':', '+', '%', '(', ')', '-', ' ']) :
    startsName c = false := by
  simp only [List.mem_cons, List.not_mem_nil, or_false] at isMark
  obtain rfl | rfl | rfl | rfl | rfl | rfl | rfl | rfl := isMark <;> decide +kernel

theorem Begins.operator (more : Begins braces next tokens rest) (mark : Char) (isMark : mark ∈ operators) :
    Begins braces (mark :: ' ' :: next) (.mark (String.singleton mark) :: tokens) rest := by
  simp only [operators, List.mem_cons, List.not_mem_nil, or_false] at isMark
  obtain rfl | rfl | rfl | rfl := isMark
  all_goals
    exact more.space.token (opensToken_of rfl rfl (by decide) _)
      ((readToken_mark (startsName_mark (by decide)) (by decide) rfl
        fun point => absurd point (by decide)).trans rfl) rfl

theorem Begins.parenthesis (more : Begins braces next tokens rest) (mark : Char)
    (isMark : mark ∈ ['(', ')']) :
    Begins braces (mark :: next) (.mark (String.singleton mark) :: tokens) rest := by
  simp only [List.mem_cons, List.not_mem_nil, or_false] at isMark
  obtain rfl | rfl := isMark
  all_goals
    exact more.token (opensToken_of rfl rfl (by decide) _)
      ((readToken_mark (startsName_mark (by decide)) (by decide) rfl
        fun point => absurd point (by decide)).trans rfl) rfl

theorem Begins.point (more : Begins braces next tokens rest)
    (name : ∀ d ∈ next.head?, d.isDigit = false ∧ d ≠ '.') :
    Begins braces ('.' :: next) (.mark "." :: tokens) rest :=
  more.token (opensToken_of rfl rfl (by decide) _) (readToken_point name) rfl

end Begins

section Signs

variable {braces : List Bool} {next rest : List Char} {tokens : List Token}

/-- The signs that may stand before a number, on either face. -/
def signs : List (List Char) :=
  [[], ['+'], ['-'], ['-', '+']]

def signTokens (signs : List Char) : List Token :=
  signs.map fun sign => .mark (String.singleton sign)

theorem readMark_sign {d : Char} (follows : d ∈ '.' :: Number.asciiDigits) (next : List Char) :
    ∀ sign ∈ ['+', '-'],
      readMark (sign :: d :: next) = (.mark (String.singleton sign), d :: next) := by
  simp only [Number.asciiDigits, List.mem_cons, List.not_mem_nil, or_false] at follows
  intro sign isSign
  simp only [List.mem_cons, List.not_mem_nil, or_false] at isSign
  obtain rfl | rfl := isSign
  · obtain rfl | rfl | rfl | rfl | rfl | rfl | rfl | rfl | rfl | rfl | rfl := follows <;> rfl
  · obtain rfl | rfl | rfl | rfl | rfl | rfl | rfl | rfl | rfl | rfl | rfl := follows <;> rfl

theorem Begins.sign {d : Char} (more : Begins braces (d :: next) tokens rest) {sign : Char}
    (isSign : sign ∈ ['+', '-'])
    (read : readMark (sign :: d :: next) = (.mark (String.singleton sign), d :: next)) :
    Begins braces (sign :: d :: next) (.mark (String.singleton sign) :: tokens) rest := by
  simp only [List.mem_cons, List.not_mem_nil, or_false] at isSign
  obtain rfl | rfl := isSign
  all_goals
    exact more.token (opensToken_of rfl rfl (by decide) _)
      ((readToken_mark (startsName_mark (by decide)) (by decide) rfl
        fun point => absurd point (by decide)).trans read) rfl

theorem Begins.signs {isDigit : Char → Bool} (more : Begins braces next tokens rest)
    (starts : StartsNumber isDigit next) {before : List Char} (areSigns : before ∈ signs) :
    Begins braces (before ++ next) (signTokens before ++ tokens) rest := by
  obtain ⟨d, others, rfl, first⟩ := starts
  have follows : d ∈ '.' :: Number.asciiDigits := by
    obtain digit | ⟨rfl, -⟩ := first
    · exact List.mem_cons_of_mem _ (Number.mem_asciiDigits digit)
    · exact List.mem_cons_self
  have read := readMark_sign follows others
  simp only [Script.signs, List.mem_cons, List.not_mem_nil, or_false] at areSigns
  obtain rfl | rfl | rfl | rfl := areSigns
  · exact more
  · exact more.sign (by decide) (read '+' (by decide))
  · exact more.sign (by decide) (read '-' (by decide))
  · exact (more.sign (by decide) (read '+' (by decide))).sign (by decide) rfl

end Signs

section Numbers

variable {braces : List Bool} {literal : Literal} {next rest : List Char} {tokens : List Token}

theorem endsNumber_mark {c : Char} (isMark : c ∈ [' ', ')']) (next : List Char) :
    EndsNumber (c :: next) := by
  rintro _ ⟨⟩
  simp only [List.mem_cons, List.not_mem_nil, or_false] at isMark
  obtain rfl | rfl := isMark
  all_goals exact ⟨rfl, by decide, startsName_mark (by decide), by decide⟩

theorem Begins.number (more : Begins braces next tokens rest) (formed : literal.Formed isAsciiDigit)
    (ends : EndsNumber next) :
    Begins braces (literal.body ++ next) (.number literal.magnitude false :: tokens) rest :=
  more.token (opensToken_number (startsNumber_body formed next)) (readToken_body formed ends) rfl

/-- The first tokens of a number that is broken off. -/
inductive BrokenTokens : List Token → Prop where
  | within : BrokenTokens [.broken]
  | point : BrokenTokens [.mark ".", .broken]
  | number (value : Double) : BrokenTokens [.number value false, .broken]

theorem Begins.broken (formed : literal.Formed Number.isDigit)
    (mixed : Number.isAscii literal.body = false) (next : List Char) :
    ∃ tokens, BrokenTokens tokens ∧ Begins [] (literal.body ++ next) tokens [] := by
  have opens := opensToken_number (startsNumber_body formed next)
  cases breaksOff_body formed mixed next with
  | within broken => exact ⟨_, .within, (Begins.nil [] []).token opens broken rfl⟩
  | @after token c rest foreign read isToken =>
    have last : Begins [] (c :: rest) [.broken] [] :=
      (Begins.nil [] []).token (foreign.opensToken rest) (foreign.readToken rest) rfl
    obtain rfl | ⟨value, rfl⟩ := isToken
    · exact ⟨_, .point, last.token opens read rfl⟩
    · exact ⟨_, .number value, last.token opens read rfl⟩

end Numbers

section Trees

/-- A number behind its signs. -/
def signedNumber (signs : List Char) (value : Double) : Tree :=
  signs.foldr (fun sign operand => .unary (if sign == '-' then .minus else .plus) operand)
    (.constant (.number value))

/-- A script that is one expression. -/
def scriptOf (value : Tree) : Program :=
  ⟨false, [.expression value], []⟩

def chosen (flipped plain : Tree) : Tree :=
  .enclosed (.choice (.name "flip") flipped plain)

/-- The rotation of the placement and a further one, brought into one turn. -/
def turned (delta turn : Tree) : Tree :=
  let sum := .binary .add (.member (.name "p") (.constant (.text (Text.units "r")))) delta
  let remainder := .binary .rem (.enclosed sum) turn
  .binary .rem (.enclosed (.binary .add (.enclosed remainder) turn)) turn

def choiceTokens (number : List Token) : List Token :=
  .mark "(" :: .name "flip" false :: .mark "?" :: number

def turnedTokens (number : List Token) : List Token :=
  .mark "(" :: .mark "(" :: .mark "(" :: .name "p" false :: .mark "." :: .name "r" false ::
    .mark "+" :: number

variable {sign : List Char} (isSign : sign ∈ [[], ['+'], ['-']]) (value turn : Double)
  (tail : Lexemes)
include isSign

theorem readTokens_choice :
    readTokens (choiceTokens (signTokens (mirroredSigns sign) ++ Token.number value false ::
        .mark ":" :: (signTokens sign ++ [Token.number value false, .mark ")", .finish]))) tail =
      some (scriptOf (chosen (signedNumber (mirroredSigns sign) value) (signedNumber sign value))) := by
  simp only [List.mem_cons, List.not_mem_nil, or_false] at isSign
  obtain rfl | rfl | rfl := isSign <;> rfl

theorem readTokens_choice_broken {broken : List Token} (isBroken : BrokenTokens broken) :
    readTokens (choiceTokens (signTokens (mirroredSigns sign) ++ broken)) tail = none := by
  simp only [List.mem_cons, List.not_mem_nil, or_false] at isSign
  cases isBroken <;> obtain rfl | rfl | rfl := isSign <;> rfl

set_option maxRecDepth 2000 in
theorem readTokens_turned :
    readTokens (turnedTokens (signTokens sign ++ [Token.number value false, .mark ")", .mark "%",
        .number turn false, .mark ")", .mark "+", .number turn false, .mark ")", .mark "%",
        .number turn false, .finish])) tail =
      some (scriptOf (turned (signedNumber sign value) (.constant (.number turn)))) := by
  simp only [List.mem_cons, List.not_mem_nil, or_false] at isSign
  obtain rfl | rfl | rfl := isSign <;> rfl

set_option maxRecDepth 2000 in
theorem readTokens_turned_broken {broken : List Token} (isBroken : BrokenTokens broken) :
    readTokens (turnedTokens (signTokens sign ++ broken)) tail = none := by
  simp only [List.mem_cons, List.not_mem_nil, or_false] at isSign
  cases isBroken <;> obtain rfl | rfl | rfl := isSign <;> rfl

end Trees

section Texts

variable {braces : List Bool} {literal : Literal} {chars number next rest : List Char}
  {tokens : List Token}

theorem sign_cases {sign : Option Char} (isSign : sign ∈ [none, some '+', some '-']) :
    sign.toList ∈ [[], ['+'], ['-']] ∧ sign.toList ∈ signs ∧ mirroredSigns sign.toList ∈ signs ∧
      Number.isAscii sign.toList = true := by
  simp only [List.mem_cons, List.not_mem_nil, or_false] at isSign
  obtain rfl | rfl | rfl := isSign <;> simp [signs, mirroredSigns, Number.isAscii]

theorem Begins.choice (more : Begins braces number tokens rest) :
    Begins braces ("(flip ? ".toList ++ number) (choiceTokens tokens) rest :=
  ((more.operator '?' (by decide)).space.word "flip" rfl
    (endsName_cons (by decide) _)).parenthesis _ (by decide)

theorem Begins.turned (more : Begins braces number tokens rest) :
    Begins braces ("(((p.r + ".toList ++ number) (turnedTokens tokens) rest := by
  have sum := (more.operator '+' (by decide)).space.word "r" rfl
    (endsName_cons (by decide) _)
  have name : ∀ d ∈ ("r".toList ++ ' ' :: '+' :: ' ' :: number).head?, d.isDigit = false ∧ d ≠ '.' := by
    rintro _ ⟨⟩
    decide
  have rotation := (sum.point name).word "p" rfl (endsName_cons (by decide) _)
  exact ((rotation.parenthesis _ (by decide)).parenthesis _ (by decide)).parenthesis _ (by decide)

/-- The text of a choice between the number on the other face and the number itself. -/
def choiceText (flipped plain : List Char) : List Char :=
  "(flip ? ".toList ++ (flipped ++ (" : ".toList ++ (plain ++ [')'])))

theorem choiceText_append (before sign body : List Char) :
    choiceText (before ++ body) (sign ++ body) = "(flip ? ".toList ++
      (before ++ (body ++ ' ' :: ':' :: ' ' :: (sign ++ (body ++ [')'])))) := by
  have general (front colon : List Char) :
      front ++ (before ++ body ++ (colon ++ (sign ++ body ++ [')']))) =
        front ++ (before ++ (body ++ (colon ++ (sign ++ (body ++ [')']))))) := by
    simp only [List.append_assoc]
  exact general _ [' ', ':', ' ']

def turnedText (delta : List Char) : List Char :=
  "(((p.r + ".toList ++ (delta ++ ") % 360) + 360) % 360".toList)

theorem turnedText_append (sign body : List Char) :
    turnedText (sign ++ body) =
      "(((p.r + ".toList ++ (sign ++ (body ++ ") % 360) + 360) % 360".toList)) := by
  have general (front back : List Char) :
      front ++ (sign ++ body ++ back) = front ++ (sign ++ (body ++ back)) := by
    rw [List.append_assoc]
  exact general _ _

def fullTurn : Double :=
  .ofDecimal false 360 0

theorem Begins.turn (more : Begins braces next tokens rest) (ends : EndsNumber next) :
    Begins braces ('3' :: '6' :: '0' :: next) (.number fullTurn false :: tokens) rest := by
  have formed : Literal.Formed isAsciiDigit ⟨none, ['3', '6', '0'], none, none⟩ :=
    ⟨by simp, .inr (.inr ⟨'3', ['6', '0'], rfl, by decide, by decide, rfl⟩), nofun, nofun, nofun⟩
  have value : Literal.magnitude ⟨none, ['3', '6', '0'], none, none⟩ = fullTurn := by
    simp [Literal.magnitude, Number.naturalOf, Number.digitValue, fullTurn]
  rw [← value]
  exact more.number formed ends

/-- What follows the further rotation. -/
def afterDelta : List Token :=
  [.mark ")", .mark "%", .number fullTurn false, .mark ")", .mark "+", .number fullTurn false,
    .mark ")", .mark "%", .number fullTurn false]

theorem Begins.afterDelta (more : Begins braces next tokens rest) (ends : EndsNumber next) :
    Begins braces (") % 360) + 360) % 360".toList ++ next) (afterDelta ++ tokens) rest := by
  have last := ((more.turn ends).operator '%' (by decide)).space.parenthesis ')' (by decide)
  have middle := ((last.turn (endsNumber_mark (by decide) _)).operator '+'
    (by decide)).space.parenthesis ')' (by decide)
  exact ((middle.turn (endsNumber_mark (by decide) _)).operator '%'
    (by decide)).space.parenthesis ')' (by decide)

/-- A number behind its signs on either face, as the operands of a choice. -/
theorem Begins.numberChoice (more : Begins braces next tokens rest)
    (formed : literal.Formed isAsciiDigit) {before sign : List Char} (areSigns : before ∈ Script.signs)
    (areSignsToo : sign ∈ Script.signs) :
    Begins braces ("(flip ? ".toList ++
        (before ++ (literal.body ++ ' ' :: ':' :: ' ' :: (sign ++ (literal.body ++ ')' :: next)))))
      (choiceTokens (signTokens before ++ .number literal.magnitude false :: .mark ":" ::
        (signTokens sign ++ .number literal.magnitude false :: .mark ")" :: tokens))) rest := by
  have last := (more.parenthesis ')' (by decide)).number formed (endsNumber_mark (by decide) _)
  have right := (last.signs (startsNumber_body formed _) areSignsToo).operator ':' (by decide)
  have left := right.space.number formed (endsNumber_mark (by decide) _)
  exact (left.signs (startsNumber_body formed _) areSigns).choice

theorem few_signs {before : List Char} (areSigns : before ∈ signs) :
    (signTokens before).length ≤ 2 := by
  simp only [signs, List.mem_cons, List.not_mem_nil, or_false] at areSigns
  obtain rfl | rfl | rfl | rfl := areSigns <;> decide

theorem BrokenTokens.few (isBroken : BrokenTokens tokens) : tokens.length ≤ 2 := by
  cases isBroken <;> simp

theorem few_tokens {tokens : List Token} (few : tokens.length ≤ 30) : tokens.length ≤ maxParts :=
  Nat.le_trans few (Nat.le_of_ble_eq_true rfl)

variable (read : Literal.read? chars = some literal)
include read

theorem isAscii_body : Number.isAscii chars = Number.isAscii literal.body := by
  obtain ⟨-, -, -, ascii⟩ := sign_cases (Literal.formed_of_read? read).sign
  rw [(Number.spelling_of_read? read).1, Number.isAscii_append, ascii, Bool.true_and]

/-- A choice between two mirror images of a number is read with the number as its operands. With a
digit that is not ASCII there is nothing to read. -/
theorem parse_choice :
    parse (choiceText (Number.mirrorChars chars) chars) =
      if Number.isAscii chars then
        some (scriptOf (chosen
          (signedNumber (mirroredSigns literal.sign.toList) literal.magnitude)
          (signedNumber literal.sign.toList literal.magnitude)))
      else none := by
  have formed := Literal.formed_of_read? read
  obtain ⟨isSign, plain, mirrored, -⟩ := sign_cases formed.sign
  obtain ⟨own, other⟩ := Number.spelling_of_read? read
  rw [isAscii_body read, other, own, choiceText_append]
  cases body : Number.isAscii literal.body with
  | true =>
    have formed := formed.ascii body
    have whole := Begins.finish.numberChoice formed mirrored plain
    have few := few_signs mirrored
    have more := few_signs plain
    obtain ⟨tail, parses⟩ := whole.parse (few_tokens (by simp [choiceTokens]; omega))
    exact parses.trans (readTokens_choice isSign _ tail)
  | false =>
    obtain ⟨tokens, isBroken, begins⟩ := Begins.broken formed body
      (' ' :: ':' :: ' ' :: (literal.sign.toList ++ (literal.body ++ [')'])))
    have whole := (begins.signs (startsNumber_body formed _) mirrored).choice
    have few := few_signs mirrored
    have more := isBroken.few
    obtain ⟨tail, parses⟩ := whole.parse (few_tokens (by simp [choiceTokens]; omega))
    exact parses.trans (readTokens_choice_broken isSign tail isBroken)

/-- So is a rotation that a number is added to. -/
theorem parse_turned :
    parse (turnedText chars) =
      if Number.isAscii chars then
        some (scriptOf (turned (signedNumber literal.sign.toList literal.magnitude)
          (.constant (.number fullTurn))))
      else none := by
  have formed := Literal.formed_of_read? read
  obtain ⟨isSign, plain, -⟩ := sign_cases formed.sign
  rw [isAscii_body read, (Number.spelling_of_read? read).1, turnedText_append]
  cases body : Number.isAscii literal.body with
  | true =>
    have formed := formed.ascii body
    have after : Begins [] (") % 360) + 360) % 360".toList ++ []) _ [] :=
      Begins.finish.afterDelta nofun
    rw [List.append_nil] at after
    have last := after.number formed (endsNumber_mark (by decide) _)
    have whole := (last.signs (startsNumber_body formed _) plain).turned
    have few := few_signs plain
    obtain ⟨tail, parses⟩ := whole.parse (few_tokens (by simp [turnedTokens, afterDelta]; omega))
    exact parses.trans (readTokens_turned isSign _ _ tail)
  | false =>
    obtain ⟨tokens, isBroken, begins⟩ := Begins.broken formed body ") % 360) + 360) % 360".toList
    have whole := (begins.signs (startsNumber_body formed _) plain).turned
    have few := few_signs plain
    have more := isBroken.few
    obtain ⟨tail, parses⟩ := whole.parse (few_tokens (by simp [turnedTokens]; omega))
    exact parses.trans (readTokens_turned_broken isSign tail isBroken)

end Texts

end FootprintTemplate.Script
