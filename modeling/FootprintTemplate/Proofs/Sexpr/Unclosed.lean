import FootprintTemplate.Proofs.Sexpr.Splitting
import FootprintTemplate.Proofs.Sexpr.Stage

/-! Strings that are never closed. Where a string ends is told by places in the whole text, and
whether it was closed by the text of its token alone; the main statement is that the two agree. -/
namespace FootprintTemplate.Sexpr

/-- A quote with no backslash right before it. -/
def ClosesAt (text : List Char) (place : Nat) : Prop :=
  text[place]? = some '"' ∧ text[place - 1]? ≠ some '\\'

instance (text : List Char) (place : Nat) : Decidable (ClosesAt text place) :=
  inferInstanceAs (Decidable (_ ∧ _))

/-- The first quote behind the opening one that closes a string. -/
def closingQuote? (text : List Char) (opening : Nat) : Option Nat :=
  (List.range' (opening + 1) (text.length - (opening + 1))).find? fun place : Nat => ClosesAt text place

/-- The place behind the string that is opened here. -/
def stringEnd (text : List Char) (opening : Nat) : Nat :=
  ((closingQuote? text opening).map (· + 1)).getD text.length

theorem ClosesAt.lt {text : List Char} {place : Nat} (closes : ClosesAt text place) :
    place < text.length :=
  (List.getElem?_eq_some_iff.mp closes.1).1

theorem closingQuote?_eq_none {text : List Char} {opening : Nat} :
    closingQuote? text opening = none ↔ ∀ place, opening < place → ¬ ClosesAt text place := by
  simp only [closingQuote?, List.find?_eq_none, List.mem_range'_1, decide_eq_true_eq]
  constructor
  · intro none place behind closes
    have inside := closes.lt
    exact none place ⟨behind, by omega⟩ closes
  · exact fun none place inside => none place inside.1

theorem closingQuote?_eq_some {text : List Char} {opening place : Nat}
    (behind : opening < place) (closes : ClosesAt text place)
    (first : ∀ earlier, opening < earlier → earlier < place → ¬ ClosesAt text earlier) :
    closingQuote? text opening = some place := by
  have inside := closes.lt
  rw [closingQuote?, List.find?_range'_eq_some]
  refine ⟨by simpa using closes, List.mem_range'_1.mpr ⟨behind, by omega⟩, ?_⟩
  intro earlier least below
  simpa using first earlier least below

/-- A string without a quote that closes it, told place by place. -/
theorem isEscaped_iff {before : Char} {body : List Char} :
    IsEscaped before body ↔
      ∀ place : Nat, body[place]? = some '"' → (before :: body)[place]? = some '\\' := by
  induction body generalizing before with
  | nil => simp [IsEscaped]
  | cons c rest ih =>
    rw [IsEscaped, ih]
    constructor
    · rintro ⟨first, others⟩ place quote
      cases place with
      | zero => simpa using first (by simpa using quote)
      | succ place => exact others place (by simpa using quote)
    · intro all
      refine ⟨fun quote => ?_, fun place quote => ?_⟩
      · simpa using all 0 (by simp [quote])
      · simpa using all (place + 1) (by simpa using quote)

section Places

variable (front back : List Char) {body : List Char}

theorem getElem?_opened (place : Nat) :
    (front ++ '"' :: back)[front.length + 1 + place]? = back[place]? := by
  rw [List.getElem?_append_right (by omega)]
  have shift : front.length + 1 + place - front.length = place + 1 := by omega
  rw [shift, List.getElem?_cons_succ]

theorem getElem?_opened_before (place : Nat) :
    (front ++ '"' :: back)[front.length + 1 + place - 1]? = ('"' :: back)[place]? := by
  rw [List.getElem?_append_right (by omega)]
  congr 1
  omega

theorem not_closesAt (escaped : IsEscaped '"' body) {place : Nat} (behind : front.length < place)
    (within : place ≤ front.length + body.length) :
    ¬ ClosesAt (front ++ '"' :: (body ++ back)) place := by
  rintro ⟨quote, plain⟩
  obtain ⟨inner, rfl⟩ := Nat.exists_eq_add_of_le behind
  rw [getElem?_opened, List.getElem?_append_left (by omega)] at quote
  rw [getElem?_opened_before, ← List.cons_append, List.getElem?_append_left (by simp; omega)]
    at plain
  exact plain (isEscaped_iff.mp escaped inner quote)

theorem closingQuote?_open (escaped : IsEscaped '"' body) :
    closingQuote? (front ++ '"' :: body) front.length = none := by
  refine closingQuote?_eq_none.mpr fun place behind closes => ?_
  have inside := closes.lt
  rw [List.length_append, List.length_cons] at inside
  rw [← List.append_nil body] at closes
  exact not_closesAt front [] escaped behind (by omega) closes

theorem closingQuote?_quoted (closable : IsClosable body) :
    closingQuote? (front ++ (quotedChars body ++ back)) front.length =
      some (front.length + 1 + body.length) := by
  have shape : front ++ (quotedChars body ++ back) = front ++ '"' :: (body ++ '"' :: back) := by
    simp [quotedChars]
  rw [shape]
  refine closingQuote?_eq_some (by omega) ⟨?_, ?_⟩ ?_
  · rw [getElem?_opened, List.getElem?_append_right le_rfl, Nat.sub_self, List.getElem?_cons_zero]
  · rw [getElem?_opened_before]
    -- The character before the closing quote is the last of the string, or its opening quote.
    cases body.eq_nil_or_concat with
    | inl empty => simp [empty]
    | inr concat =>
      obtain ⟨before, c, rfl⟩ := concat
      have other : c ≠ '\\' := by simpa using closable.2
      simpa using other
  · exact fun earlier behind below => not_closesAt front _ closable.1 behind (by omega)

end Places

/-- Where a token stands, and what the text tells of it from there on. -/
structure Token.StandsAt (token : Token) (text front back : List Char) : Prop where
  split : text = front ++ (token.text.toList ++ back)
  offset : token.offset = width front
  string : text[front.length]? = some '"' →
    front.length + token.text.toList.length = stringEnd text front.length
  unterminated : token.isUnterminated = true ↔
    text[front.length]? = some '"' ∧ closingQuote? text front.length = none

theorem getElem?_length_append (front : List Char) (c : Char) (rest : List Char) :
    (front ++ c :: rest)[front.length]? = some c := by
  simp

theorem standsAt_quoted {token : Token} {body : List Char} (closable : IsClosable body)
    (shape : token.text.toList = quotedChars body) (front back : List Char)
    (offset : token.offset = width front) :
    token.StandsAt (front ++ (token.text.toList ++ back)) front back where
  split := rfl
  offset := offset
  string := fun _ => by
    rw [shape, stringEnd, closingQuote?_quoted front back closable]
    simp [quotedChars]
    omega
  unterminated := by
    rw [Token.isUnterminated, shape, isUnclosed_quoted closable,
    closingQuote?_quoted front back closable]
    simp

theorem standsAt_open {token : Token} (unclosed : IsOpenString token.text.toList)
    (front : List Char) (offset : token.offset = width front) :
    token.StandsAt (front ++ (token.text.toList ++ [])) front [] := by
  obtain ⟨body, shape, escaped⟩ := unclosed
  have none := closingQuote?_open front escaped
  rw [shape, List.append_nil]
  constructor
  · rw [shape, List.append_nil]
  · exact offset
  · intro _
    rw [shape, stringEnd, none]
    simp
  · rw [Token.isUnterminated, shape, isUnclosed_open escaped, none]
    simp

theorem standsAt_plain {token : Token} {c : Char} {rest : List Char}
    (shape : token.text.toList = c :: rest) (plain : c ≠ '"') (front back : List Char)
    (offset : token.offset = width front) :
    token.StandsAt (front ++ (token.text.toList ++ back)) front back := by
  have first : (front ++ (token.text.toList ++ back))[front.length]? = some c := by
    rw [shape, List.cons_append, getElem?_length_append]
  constructor
  · rfl
  · exact offset
  · rw [first]
    exact fun quote => absurd (Option.some.inj quote) plain
  · rw [first, Token.isUnterminated, shape]
    simp [Token.isUnclosed, plain]

theorem standsAt_lexeme {token : Token} (lexeme : Lexeme token.text.toList) (front back : List Char)
    (offset : token.offset = width front) :
    token.StandsAt (front ++ (token.text.toList ++ back)) front back := by
  generalize shape : token.text.toList = chars at lexeme
  rw [← shape]
  cases lexeme with
  | opening => exact standsAt_plain shape (by decide) front back offset
  | closing => exact standsAt_plain shape (by decide) front back offset
  | @bare chars bare =>
    obtain ⟨c, rest, rfl⟩ := List.exists_cons_of_ne_nil bare.1
    refine standsAt_plain shape ?_ front back offset
    rintro rfl
    exact bare.no_quote List.mem_cons_self
  | quoted closable => exact standsAt_quoted closable shape front back offset

/-- The token after the first ones stands behind the pieces of these. -/
theorem tokensAt_split {offset : Nat} {pieces : List (List Char × String)} {token : Token}
    {before after : List Token} (split : tokensAt offset pieces = before ++ token :: after) :
    ∃ first gap rest, pieces = first ++ (gap, token.text) :: rest ∧
      token.offset = offset + width (laidOut first gap) ∧ (rest = [] → after = []) := by
  induction pieces generalizing offset before with
  | nil => simp [tokensAt] at split
  | cons piece others ih =>
    obtain ⟨gap, own⟩ := piece
    rw [tokensAt] at split
    cases before with
    | nil =>
      obtain ⟨rfl, rfl⟩ := List.cons.inj split
      exact ⟨[], gap, others, rfl, rfl, fun empty => by rw [empty, tokensAt]⟩
    | cons earlier before =>
      obtain ⟨-, later⟩ := List.cons.inj split
      obtain ⟨first, gap', rest, rfl, start, ends⟩ := ih later
      refine ⟨(gap, own) :: first, gap', rest, rfl, ?_, ends⟩
      rw [start, laidOut_cons, width_append, width_append]
      simp only [Nat.add_assoc]

theorem exists_standsAt {text : String} {before after : List Token} {token : Token}
    (split : tokenize text = before ++ token :: after) :
    ∃ front back, token.StandsAt text.toList front back ∧
      (token.isUnterminated = true → after = [] ∧ back = []) := by
  obtain ⟨pieces, last, parts⟩ := exists_split text.toList
  have tokens : tokenize text = tokensAt 0 pieces := parts.tokensFrom 0
  obtain ⟨first, gap, rest, rfl, start, ends⟩ := tokensAt_split (tokens.symm.trans split)
  rw [Nat.zero_add] at start
  have shape : text.toList = laidOut first gap ++ (token.text.toList ++ laidOut rest last) := by
    rw [← parts.text]
    simp [laidOut]
  rw [shape]
  rcases parts.tokens first (gap, token.text) rest rfl with lexeme | ⟨unclosed, rfl, rfl⟩
  · refine ⟨laidOut first gap, laidOut rest last, standsAt_lexeme lexeme _ _ start, ?_⟩
    intro unterminated
    rw [Token.isUnterminated, isUnclosed_lexeme lexeme] at unterminated
    contradiction
  · exact ⟨laidOut first gap, [], standsAt_open unclosed _ start, fun _ => ⟨ends rfl, rfl⟩⟩

/-- Its first quote behind the opening one stands at its end. -/
def IsClosedString (chars : List Char) : Prop :=
  closingQuote? chars 0 = some (chars.length - 1)

theorem closed_of_lexeme {chars : List Char} (lexeme : Lexeme chars)
    (string : chars[0]? = some '"') : IsClosedString chars := by
  cases lexeme with
  | opening => cases string
  | closing => cases string
  | bare bare => exact absurd (List.mem_of_getElem? string) bare.no_quote
  | @quoted body closable =>
    have closed : closingQuote? (quotedChars body) 0 = some (0 + 1 + body.length) := by
      simpa using closingQuote?_quoted [] [] closable
    rw [IsClosedString, closed]
    simp [quotedChars, Nat.add_comm]

theorem Document.closed {text : String} {tokens : List Token} {node : Node}
    (document : Document tokens node) (read : tokens ⊆ tokenize text) :
    ∀ word ∈ node.item.words, Token.isUnclosed word.toList = false ∧
      (word.toList[0]? = some '"' → IsClosedString word.toList) := by
  intro word member
  have inside : word ∈ node.flatten := Item.mem_flatten_of_mem_words node.item member
  rw [← document.texts] at inside
  obtain ⟨token, own, rfl⟩ := List.mem_map.mp inside
  have terminated := document.terminated token own
  exact ⟨terminated, closed_of_lexeme (lexeme_of_mem_tokenize (read own) terminated)⟩

/-- Only a token that is no whole string is refused for being none. -/
theorem Halts.unterminatedString {texts : List String} {tokens : List Token} {index offset : Nat}
    (halts : Halts texts 0 tokens (.unterminatedString index offset)) :
    ∃ token, tokens[index]? = some token ∧ token.offset = offset ∧
      token.isUnterminated = true := by
  obtain ⟨stage, own, rest, rfl, -, -, -, stops⟩ := halts
  cases rest with
  | nil => cases stops.2
  | cons token rest =>
    have fault : stage.fault? (0 + own.length) token = some (.unterminatedString index offset) :=
      stops
    have same : index = own.length ∧ token.offset = offset ∧ token.isUnterminated = true := by
      cases stage <;> grind [Stage.fault?]
    obtain ⟨rfl, start, unterminated⟩ := same
    exact ⟨token, by simp, start, unterminated⟩

/-- A token is told to be unterminated by its own text exactly where the whole text holds no quote
that closes it. Such a token is the last one; no tree holds one, and only it is refused for being
one. -/
theorem isUnterminated_iff_never_closed (text : String) :
    (∀ before token after, tokenize text = before ++ token :: after →
      ∃ front back, token.StandsAt text.toList front back ∧
        (token.isUnterminated = true → after = [] ∧ back = [])) ∧
    (∀ node, (parse text = .ok node ∨ ∃ tokens ⊆ tokenize text, parseFirst tokens = .ok node) →
      ∀ word ∈ node.item.words, Token.isUnclosed word.toList = false ∧
        (word.toList[0]? = some '"' → IsClosedString word.toList)) ∧
    (∀ tokens index offset, tokens ⊆ tokenize text →
      tokens = tokenize text ∧ parse text = .error (.unterminatedString index offset) ∨
        parseFirst tokens = .error (.unterminatedString index offset) →
      ∃ token front, tokens[index]? = some token ∧ (tokenize text).getLast? = some token ∧
        offset = width front ∧ token.StandsAt text.toList front [] ∧
        text.toList[front.length]? = some '"' ∧
        closingQuote? text.toList front.length = none) := by
  refine ⟨fun before token after split => exists_standsAt split, ?_, ?_⟩
  · rintro node (read | ⟨tokens, inside, read⟩)
    · exact (parse_eq_ok.mp read).closed (List.Subset.refl _)
    · obtain ⟨own, rest, rfl, document⟩ := parseFirst_eq_ok.mp read
      exact document.closed fun token member => inside (List.mem_append_left _ member)
  · intro tokens index offset inside fails
    have halts : Halts [] 0 tokens (.unterminatedString index offset) := by
      rcases fails with ⟨rfl, fails⟩ | fails
      · exact parse_halts fails
      · exact readNode_halts (parseFirst_eq_error.mp fails)
    obtain ⟨token, found, rfl, unterminated⟩ := halts.unterminatedString
    obtain ⟨before, after, split⟩ := List.append_of_mem (inside (List.mem_of_getElem? found))
    obtain ⟨front, back, stands, last⟩ := exists_standsAt split
    obtain ⟨rfl, rfl⟩ := last unterminated
    obtain ⟨string, none⟩ := stands.unterminated.mp unterminated
    exact ⟨token, front, found, by rw [split, List.getLast?_concat], stands.offset, stands, string,
      none⟩

-- Two backslashes do not undo each other: the quote behind them closes nothing.
example : closingQuote? "(\"a\\\\\"".toList 1 = none ∧
    (tokenize "(\"a\\\\\"").map Token.isUnterminated = [false, true] := by
  decide

end FootprintTemplate.Sexpr
