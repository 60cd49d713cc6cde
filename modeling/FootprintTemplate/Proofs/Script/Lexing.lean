import FootprintTemplate.Proofs.Text.Units
import FootprintTemplate.Script.Literal
import FootprintTemplate.Script.Token

/-! Tokens of script text that is written out. Names, string literals and marks are read back as what
they were written for. -/
namespace FootprintTemplate.Script

open Text (Units unitsOfChars unitsOfPoint)

section Quoted

theorem readEscape?_control {c : Char} (control : c.toNat < 32) (rest : List Char) :
    readEscape? ('u' :: '0' :: '0' :: hexDigit (c.toNat / 16) :: hexDigit (c.toNat % 16) :: rest) =
      some ⟨unitsOfPoint c.toNat, false, rest⟩ := by
  have digits : ∀ n < 32, [('0' : Char), '0', hexDigit (n / 16), hexDigit (n % 16)].all
      isHexDigit = true ∧ valueIn 16 ['0', '0', hexDigit (n / 16), hexDigit (n % 16)] = n := by
    decide
  obtain ⟨areDigits, value⟩ := digits c.toNat control
  change (if [_, _, _, _].all isHexDigit then some (valueIn 16 _, rest) else none).map _ = _
  rw [if_pos areDigits, value]
  rfl

theorem readQuoted?_plain {quote c : Char} (other : c ≠ quote) (feed : c ≠ '\n')
    (carriage : c ≠ '\r') (backslash : c ≠ '\\') (fuel : Nat) (rest : List Char) :
    readQuoted? quote (fuel + 1) (c :: rest) = (readQuoted? quote fuel rest).map fun text =>
      { text with value := unitsOfPoint c.toNat ++ text.value } := by
  simp [readQuoted?, other, feed, carriage, backslash]

theorem readQuoted?_stringChar (c : Char) :
    ∃ plain, ∀ (fuel : Nat) (rest : List Char),
      readQuoted? '"' (fuel + 1) (stringChar c ++ rest) =
        (readQuoted? '"' fuel rest).map fun text =>
          { text with value := unitsOfPoint c.toNat ++ text.value, exact := plain && text.exact } := by
  unfold stringChar
  split
  case h_8 quote backslash _ _ feed carriage _ =>
    split
    · rename_i control
      refine ⟨false, fun fuel rest => ?_⟩
      simp [readQuoted?, readEscape?_control control]
    · refine ⟨true, fun fuel rest => ?_⟩
      exact readQuoted?_plain quote feed carriage backslash fuel rest
  all_goals exact ⟨false, fun _ _ => rfl⟩

theorem readQuoted?_stringLiteral (text : List Char) :
    ∃ exact, ∀ (fuel : Nat) (rest : List Char), text.length < fuel →
      readQuoted? '"' fuel (text.flatMap stringChar ++ '"' :: rest) =
        some ⟨unitsOfChars text, exact, false, rest⟩ := by
  induction text with
  | nil =>
    refine ⟨true, fun fuel rest enough => ?_⟩
    cases fuel with
    | zero => cases enough
    | succ fuel => rfl
  | cons c chars ih =>
    obtain ⟨exact, read⟩ := ih
    obtain ⟨plain, first⟩ := readQuoted?_stringChar c
    refine ⟨plain && exact, fun fuel rest enough => ?_⟩
    cases fuel with
    | zero => cases enough
    | succ fuel =>
      rw [List.flatMap_cons, List.append_assoc, first, read _ _ (Nat.lt_of_succ_lt_succ enough)]
      rfl

theorem length_le_flatMap {write : Char → List Char} (filled : ∀ c, write c ≠ [])
    (text : List Char) : text.length ≤ (text.flatMap write).length := by
  induction text with
  | nil => exact Nat.le_refl 0
  | cons c rest ih =>
    have one : 1 ≤ (write c).length := List.length_pos_iff.mpr (filled c)
    rw [List.flatMap_cons, List.length_append, List.length_cons, Nat.add_comm]
    exact Nat.add_le_add one ih

theorem stringChar_ne_nil (c : Char) : stringChar c ≠ [] := by
  unfold stringChar
  split <;> (try split) <;> simp

theorem readText_stringLiteral (text : List Char) :
    ∃ exact, ∀ rest : List Char,
      readQuoted? '"' ((text.flatMap stringChar ++ '"' :: rest).length + 1)
        (text.flatMap stringChar ++ '"' :: rest) = some ⟨unitsOfChars text, exact, false, rest⟩ := by
  obtain ⟨exact, read⟩ := readQuoted?_stringLiteral text
  refine ⟨exact, fun rest => read _ _ ?_⟩
  have long := length_le_flatMap stringChar_ne_nil text
  rw [List.length_append]
  omega

end Quoted

section Names

/-- No name goes on here. -/
def EndsName (rest : List Char) : Prop :=
  ∀ c ∈ rest.head?, continuesName c = false ∧ c ≠ '\\'

/-- Marks and the blank stand in no name. -/
def punctuation : List Char :=
  [' ', '"', '\x27', '.', ',', ':', '[', ']', '\x7b', '\x7d']

theorem outside_names {c : Char} (mark : c ∈ punctuation) :
    startsName c = false ∧ continuesName c = false ∧ c ≠ '\\' := by
  simp only [punctuation, List.mem_cons, List.not_mem_nil, or_false] at mark
  obtain rfl | rfl | rfl | rfl | rfl | rfl | rfl | rfl | rfl | rfl := mark <;> decide +kernel

theorem endsName_cons {c : Char} (mark : c ∈ punctuation) (rest : List Char) :
    EndsName (c :: rest) := by
  rintro _ ⟨⟩
  exact (outside_names mark).2

theorem readName_cons {fits : Char → Bool} {c : Char} (other : c ≠ '\\') (fuel : Nat)
    (rest : List Char) :
    readName fits (fuel + 1) (c :: rest) =
      if fits c then
        (c :: (readName continuesName fuel rest).1, (readName continuesName fuel rest).2)
      else ([], false, c :: rest) := by
  rw [readName]
  rintro more rfl
  exact absurd rfl other

theorem continuesName_of_isNamePart {c : Char} (part : isNamePart c = true) :
    continuesName c = true := by
  simp only [isNamePart, Bool.or_eq_true] at part
  simp only [continuesName, Text.continuesIdentifier, Bool.or_eq_true]
  obtain (letter | underscore) | dollar := part
  · exact .inr (.inl (.inl (.inl letter)))
  · exact .inr (.inl (.inl (.inr underscore)))
  · exact .inl (.inl (.inl dollar))

theorem startsName_of_isNameStart {c : Char} (start : isNameStart c = true) :
    startsName c = true := by
  simp only [isNameStart, Bool.or_eq_true] at start
  simp only [startsName, Text.startsIdentifier, Bool.or_eq_true]
  obtain (letter | underscore) | dollar := start
  · exact .inr (.inl letter)
  · exact .inl (.inr underscore)
  · exact .inl (.inl dollar)

theorem readName_namePart {name rest : List Char} (parts : name.all isNamePart = true)
    (ends : EndsName rest) {fuel : Nat} (enough : name.length ≤ fuel) :
    readName continuesName fuel (name ++ rest) = (name, false, rest) := by
  induction name generalizing fuel with
  | nil =>
    cases fuel with
    | zero => simp [readName]
    | succ fuel =>
      cases rest with
      | nil => rfl
      | cons c more =>
        obtain ⟨stops, other⟩ := ends c rfl
        rw [List.nil_append, readName_cons other, stops]
        rfl
  | cons c more ih =>
    cases fuel with
    | zero => cases enough
    | succ fuel =>
      simp only [List.all_cons, Bool.and_eq_true] at parts
      have other : c ≠ '\\' := by
        rintro rfl
        exact absurd parts.1 (by decide)
      rw [List.cons_append, readName_cons other, continuesName_of_isNamePart parts.1, if_pos rfl,
        ih parts.2 (Nat.le_of_succ_le_succ enough)]

theorem readToken_name {name rest : List Char} (identifier : isIdentifier name = true)
    (ends : EndsName rest) :
    readToken (name ++ rest) = (.name (String.ofList name) false, rest) := by
  cases name with
  | nil => cases identifier
  | cons c more =>
    rw [isIdentifier, Bool.and_eq_true] at identifier
    have other : c ≠ '\\' := by
      rintro rfl
      exact absurd identifier.1 (by decide)
    have starts := startsName_of_isNameStart identifier.1
    have whole : readName startsName (c :: more ++ rest).length (c :: more ++ rest) =
        (c :: more, false, rest) := by
      rw [List.cons_append, List.length_cons, readName_cons other, starts, if_pos rfl,
        readName_namePart identifier.2 ends (by simp)]
    have name : readWhole (c :: more ++ rest) = some (String.ofList (c :: more), false, rest) := by
      rw [readWhole, whole]
      cases rest with
      | nil => rfl
      | cons d others =>
        have noEscape := (ends d rfl).2
        split
        · rename_i same; cases same
        · rename_i same; cases same; exact absurd rfl noEscape
        · rename_i same; cases same; rfl
    rw [List.cons_append] at name ⊢
    rw [readToken, starts, Bool.true_or, if_pos rfl, name]

end Names

section Marks

theorem readToken_mark {c : Char} (other : startsName c = false)
    (plain : c ∉ ['\\', '#', '\x27', '"', '\x60']) (digit : c.isDigit = false) {rest : List Char}
    (point : c = '.' → ∀ d ∈ rest.head?, d.isDigit = false) :
    readToken (c :: rest) = readMark (c :: rest) := by
  simp only [List.mem_cons, List.not_mem_nil, or_false, not_or] at plain
  have number : (c == '.' && rest.head?.any Char.isDigit) = false := by
    cases same : c == '.' with
    | false => rfl
    | true =>
      cases rest with
      | nil => rfl
      | cons d _ => exact point (beq_iff_eq.mp same) d rfl
  simp [readToken, other, plain, digit, number]

theorem readToken_bracket {mark : String} (bracket : mark ∈ [":", ",", "[", "]", "\x7b", "\x7d"])
    (rest : List Char) : readToken (mark.toList ++ rest) = (.mark mark, rest) := by
  simp only [List.mem_cons, List.not_mem_nil, or_false] at bracket
  obtain rfl | rfl | rfl | rfl | rfl | rfl := bracket
  all_goals
    exact (readToken_mark (outside_names (by decide)).1 (by decide) rfl
      fun point => absurd point (by decide)).trans rfl

theorem readToken_point {rest : List Char}
    (name : ∀ d ∈ rest.head?, d.isDigit = false ∧ d ≠ '.') :
    readToken ('.' :: rest) = (.mark ".", rest) := by
  rw [readToken_mark (outside_names (by decide)).1 (by decide) rfl fun _ d member => (name d member).1]
  have noMore : markFits ('.' :: rest) "..." = false := by
    cases rest with
    | nil => rfl
    | cons d more =>
      have other : ('.' == d) = false := beq_false_of_ne (Ne.symm (name d rfl).2)
      change (('.' == '.') && (('.' == d) && List.isPrefixOf ['.'] more) && true) = false
      rw [other]
      rfl
  have found : marks.find? (markFits ('.' :: rest)) = some "." := by
    rw [marks, List.find?_cons_of_neg (by exact Bool.false_ne_true),
      List.find?_cons_of_neg (by rw [noMore]; exact Bool.false_ne_true)]
    rfl
  rw [readMark, found]
  rfl

theorem readToken_stringLiteral (text : List Char) :
    ∃ exact, ∀ rest,
      readToken (stringLiteral text ++ rest) = (.text (unitsOfChars text) exact false, rest) := by
  obtain ⟨exact, read⟩ := readText_stringLiteral text
  refine ⟨exact, fun rest => ?_⟩
  have noName : startsName '"' = false := (outside_names (by decide)).1
  have shape : stringLiteral text ++ rest = '"' :: (text.flatMap stringChar ++ '"' :: rest) := by
    simp [stringLiteral]
  have string : readText '"' (text.flatMap stringChar ++ '"' :: rest) =
      (.text (unitsOfChars text) exact false, rest) := by rw [readText, read rest]
  rw [shape, ← string, readToken, noName]
  rfl

end Marks

section Lexemes

/-- The tokens of a text up to its end. -/
inductive Lexes : List Char → List Token → Prop where
  | finish {chars : List Char} (read : (readLexeme chars).token = .finish) : Lexes chars []
  | token {chars : List Char} {tokens : List Token}
      (proper : (readLexeme chars).token ∉ [.finish, .broken])
      (more : Lexes (readLexeme chars).rest tokens) :
      Lexes chars ((readLexeme chars).token :: tokens)

theorem Lexes.unique {chars : List Char} {first second : List Token} (one : Lexes chars first)
    (another : Lexes chars second) : first = second := by
  induction one generalizing second with
  | finish read =>
    cases another with
    | finish => rfl
    | token proper => exact absurd (by rw [read]; exact List.mem_cons_self) proper
  | token proper _ ih =>
    cases another with
    | finish read => exact absurd (by rw [read]; exact List.mem_cons_self) proper
    | token _ more => rw [ih more]

theorem Lexes.only {chars : List Char} {tokens : List Token} (one : Lexes chars tokens)
    (other : List Token) : Lexes chars other ↔ other = tokens :=
  ⟨fun another => another.unique one, fun same => same ▸ one⟩

/-- Neither a blank nor a comment starts the text. -/
def OpensToken (chars : List Char) : Prop :=
  ∀ c ∈ chars.head?, isBlank c = false ∧ isLineEnd c = false ∧ c ≠ '/'

theorem skipGap_blanks {blanks start : List Char} (gap : ∀ c ∈ blanks, c = ' ' ∨ c = '\n')
    (opens : OpensToken start) (crossed : Bool) :
    ∃ line, skipGap .blank crossed (blanks ++ start) = some (line, start) := by
  induction blanks generalizing crossed with
  | nil =>
    cases start with
    | nil => exact ⟨crossed, rfl⟩
    | cons c rest =>
      obtain ⟨blank, lineEnd, slash⟩ := opens c rfl
      refine ⟨crossed, ?_⟩
      rw [List.nil_append, skipGap]
      · simp [blank, lineEnd]
      · rintro _ rfl; exact absurd rfl slash
      · rintro _ rfl; exact absurd rfl slash
  | cons c rest ih =>
    obtain ⟨first, others⟩ := List.forall_mem_cons.mp gap
    obtain rfl | rfl := first
    · exact ih others crossed
    · exact ih others true

theorem readLexeme_blanks {blanks start : List Char} (gap : ∀ c ∈ blanks, c = ' ' ∨ c = '\n')
    (opens : OpensToken start) :
    (readLexeme (blanks ++ start)).token = (readToken start).1 ∧
      (readLexeme (blanks ++ start)).rest = (readToken start).2 := by
  obtain ⟨line, skipped⟩ := skipGap_blanks gap opens false
  rw [readLexeme, skipped]
  exact ⟨rfl, rfl⟩

theorem Lexes.blanks {blanks : List Char} (gap : ∀ c ∈ blanks, c = ' ' ∨ c = '\n') :
    Lexes blanks [] := by
  have read := (readLexeme_blanks gap (nofun : OpensToken [])).1
  rw [List.append_nil] at read
  exact .finish read

theorem Lexes.cons {blanks text rest : List Char} {token : Token} {tokens : List Token}
    (more : Lexes rest tokens) (read : readToken (text ++ rest) = (token, rest))
    (proper : token ∉ [.finish, .broken]) (opens : OpensToken (text ++ rest))
    (gap : ∀ c ∈ blanks, c = ' ' ∨ c = '\n') :
    Lexes (blanks ++ (text ++ rest)) (token :: tokens) := by
  obtain ⟨own, after⟩ := readLexeme_blanks gap opens
  rw [read] at own after
  have step : (readLexeme (blanks ++ (text ++ rest))).token ∉ [.finish, .broken] →
      Lexes (readLexeme (blanks ++ (text ++ rest))).rest tokens → _ := Lexes.token
  rw [own, after] at step
  exact step proper more

theorem opensToken_of {c : Char} (blank : isBlank c = false) (lineEnd : isLineEnd c = false)
    (slash : c ≠ '/') (rest : List Char) : OpensToken (c :: rest) := by
  rintro d ⟨⟩
  exact ⟨blank, lineEnd, slash⟩

theorem toNat_lt_of_isNameStart {c : Char} (start : isNameStart c = true) : c.toNat < 128 := by
  simp only [isNameStart, Bool.or_eq_true, beq_iff_eq] at start
  obtain (letter | rfl) | rfl := start
  · obtain upper | lower := Bool.or_eq_true_iff.mp (letter : (c.isUpper || c.isLower) = true)
    · have bounds : c.val ≥ 'A'.val ∧ c.val ≤ 'Z'.val := of_decide_eq_true upper
      exact Nat.lt_of_le_of_lt bounds.2 (by decide)
    · have bounds := Bool.and_eq_true_iff.mp lower
      have last : c.val ≤ 'z'.val := of_decide_eq_true bounds.2
      exact Nat.lt_of_le_of_lt last (by decide)
  · decide
  · decide

theorem plain_of_isNameStart {c : Char} (start : isNameStart c = true) :
    isBlank c = false ∧ isLineEnd c = false ∧ c ≠ '/' ∧ c.isDigit = false ∧ c ≠ '.' := by
  have ascii : ∀ n < 128, isNameStart (Char.ofNat n) = true →
      isBlank (Char.ofNat n) = false ∧ isLineEnd (Char.ofNat n) = false ∧ Char.ofNat n ≠ '/' ∧
        (Char.ofNat n).isDigit = false ∧ Char.ofNat n ≠ '.' := by decide
  have own := ascii c.toNat (toNat_lt_of_isNameStart start)
  rw [Char.ofNat_toNat] at own
  exact own start

theorem isNameStart_head {name rest : List Char} (identifier : isIdentifier name = true) :
    ∀ c ∈ (name ++ rest).head?, isNameStart c = true := by
  cases name with
  | nil => cases identifier
  | cons d more =>
    rintro c ⟨⟩
    rw [isIdentifier, Bool.and_eq_true] at identifier
    exact identifier.1

theorem opensToken_name {name : List Char} (identifier : isIdentifier name = true)
    (rest : List Char) : OpensToken (name ++ rest) := by
  intro c first
  obtain ⟨blank, lineEnd, slash, -⟩ := plain_of_isNameStart (isNameStart_head identifier c first)
  exact ⟨blank, lineEnd, slash⟩

theorem Lexes.next {text rest : List Char} {token : Token} {tokens : List Token}
    (more : Lexes rest tokens) (read : readToken (text ++ rest) = (token, rest))
    (proper : token ∉ [.finish, .broken]) (opens : OpensToken (text ++ rest)) :
    Lexes (text ++ rest) (token :: tokens) :=
  more.cons read proper opens (nofun : ∀ c ∈ [], c = ' ' ∨ c = '\n')

theorem Lexes.space {chars : List Char} {tokens : List Token} (lexes : Lexes chars tokens) :
    Lexes (' ' :: chars) tokens := by
  have same : readLexeme (' ' :: chars) = readLexeme chars := rfl
  cases lexes with
  | finish read => exact .finish (same ▸ read)
  | token proper more =>
    rw [← same] at proper more ⊢
    exact .token proper more

theorem Lexes.word {rest : List Char} {tokens : List Token} (more : Lexes rest tokens)
    (word : String) (identifier : isIdentifier word.toList = true)
    (ends : EndsName rest) : Lexes (word.toList ++ rest) (.name word false :: tokens) := by
  have read := readToken_name identifier ends
  rw [String.ofList_toList] at read
  exact more.next read (by simp) (opensToken_name identifier rest)

theorem opensToken_bracket {mark : String}
    (bracket : mark ∈ [":", ",", "[", "]", "\x7b", "\x7d"]) (rest : List Char) :
    OpensToken (mark.toList ++ rest) := by
  simp only [List.mem_cons, List.not_mem_nil, or_false] at bracket
  obtain rfl | rfl | rfl | rfl | rfl | rfl := bracket
  all_goals exact opensToken_of rfl rfl (by decide) rest

theorem Lexes.bracket {rest : List Char} {tokens : List Token} (more : Lexes rest tokens)
    (mark : String) (bracket : mark ∈ [":", ",", "[", "]", "\x7b", "\x7d"]) :
    Lexes (mark.toList ++ rest) (.mark mark :: tokens) :=
  more.next (readToken_bracket bracket rest) (by simp) (opensToken_bracket bracket rest)

end Lexemes

section Members

/-- The name of a member that a token stands for. -/
def Token.member? : Token → Option String
  | .name own _ => some own
  | .text value _ _ => Text.ofUnits? value
  | _ => none

theorem readToken_propertyKey (name : List Char) :
    ∃ key : Token, key.member? = some (String.ofList name) ∧ key ∉ [.finish, .broken] ∧
      ∀ rest, EndsName rest →
        readToken (propertyKey name ++ rest) = (key, rest) ∧ OpensToken (propertyKey name ++ rest) := by
  unfold propertyKey
  split
  · rename_i identifier
    exact ⟨_, rfl, by simp, fun rest ends =>
      ⟨readToken_name identifier ends, opensToken_name identifier rest⟩⟩
  · obtain ⟨exact, read⟩ := readToken_stringLiteral name
    refine ⟨_, ?_, by simp, fun rest _ => ⟨read rest, ?_⟩⟩
    · have whole := Text.ofUnits?_units (String.ofList name)
      rwa [Text.units, String.toList_ofList] at whole
    · exact opensToken_of rfl rfl (by decide) _

/-- An object and its member, where these tokens are nothing else. -/
def accessed? : List Token → Option (String × String)
  | [.name object _, .mark ".", .name member _] => some (object, member)
  | [.name object _, .mark "[", .text member _ _, .mark "]"] =>
    (Text.ofUnits? member).map (object, ·)
  | _ => none

theorem lexes_propertyAccess {object : List Char} (identifier : isIdentifier object = true)
    (name : List Char) :
    ∃ tokens, Lexes (propertyAccess object name) tokens ∧
      accessed? tokens = some (String.ofList object, String.ofList name) := by
  have finish : Lexes [] [] := .blanks nofun
  unfold propertyAccess
  split
  · rename_i member
    have last := finish.next (readToken_name member nofun) (by simp) (opensToken_name member [])
    rw [List.append_nil] at last
    have starts : ∀ c ∈ name.head?, c.isDigit = false ∧ c ≠ '.' := by
      intro c first
      rw [← List.append_nil name] at first
      exact (plain_of_isNameStart (isNameStart_head member c first)).2.2.2
    have point : Lexes (['.'] ++ name) _ :=
      last.next (readToken_point starts) (by simp)
        (opensToken_of rfl rfl (by decide) _)
    exact ⟨_, point.next (readToken_name identifier (endsName_cons (by decide) _))
      (by simp) (opensToken_name identifier _), rfl⟩
  · obtain ⟨exact, read⟩ := readToken_stringLiteral name
    have closing : Lexes [']'] _ :=
      finish.bracket "]" (by decide)
    have inner := closing.next (read [']']) (by simp) (opensToken_of rfl rfl (by decide) _)
    have opening : Lexes ('[' :: (stringLiteral name ++ [']'])) _ :=
      inner.bracket "[" (by decide)
    refine ⟨_, opening.next (readToken_name identifier (endsName_cons (by decide) _))
      (by simp) (opensToken_name identifier _), ?_⟩
    have whole := Text.ofUnits?_units (String.ofList name)
    rw [Text.units, String.toList_ofList] at whole
    change (Text.ofUnits? (unitsOfChars name)).map _ = _
    rw [whole]
    rfl

end Members

end FootprintTemplate.Script
