import FootprintTemplate.Proofs.Number.Decimal
import FootprintTemplate.Proofs.Script.Lexing

/-! Number literals as a script reads them. Up to the first digit of another script than ASCII, a number
of the source is one token of the same value. -/
namespace FootprintTemplate.Script

open Number (Double Exponent IsWhole Literal exponentText fractionChars isAsciiDigit)

section Digits

theorem isDigit_eq_isAsciiDigit (c : Char) : c.isDigit = isAsciiDigit c := by
  simp only [Char.isDigit, isAsciiDigit, ge_iff_le]
  rfl

theorem isSome_digitIn? {c : Char} (digit : isAsciiDigit c = true) :
    (digitIn? 10 c).isSome = true := by
  have bounds := Number.toNat_of_isAsciiDigit digit
  rw [← isDigit_eq_isAsciiDigit] at digit
  have small : c.toNat - 48 < 10 := by omega
  simp [digitIn?, digit, small]

theorem digitIn?_other {c : Char} (other : c.isDigit = false) : digitIn? 10 c = none := by
  have large (bound : Nat) : ¬c.toNat - bound + 10 < 10 := by omega
  simp only [digitIn?, other, Bool.false_eq_true, if_false]
  by_cases lower : ('a' ≤ c && c ≤ 'z') = true
  · rw [if_pos lower, if_neg (large _)]
  · rw [if_neg lower]
    by_cases upper : ('A' ≤ c && c ≤ 'Z') = true
    · rw [if_pos upper, if_neg (large _)]
    · rw [if_neg upper, if_neg (Nat.lt_irrefl 10)]

/-- No digit goes on here. -/
def EndsDigits (rest : List Char) : Prop :=
  ∀ c ∈ rest.head?, c.isDigit = false ∧ c ≠ '_'

theorem readDigits?_run {digits rest : List Char} (all : digits.all isAsciiDigit = true)
    (ends : EndsDigits rest) : readDigits? 10 (digits ++ rest) = some (digits, rest) := by
  induction digits with
  | nil =>
    cases rest with
    | nil => rfl
    | cons c more =>
      obtain ⟨other, underscore⟩ := ends c rfl
      rw [List.nil_append, readDigits?]
      · simp [underscore, digitIn?_other other]
      · rintro _ _ rfl
        exact absurd rfl underscore
  | cons c more ih =>
    obtain ⟨digit, others⟩ := Bool.and_eq_true_iff.mp all
    have underscore : c ≠ '_' := by
      rintro rfl
      exact absurd digit (by decide)
    rw [List.cons_append, readDigits?]
    · simp [underscore, isSome_digitIn? digit, ih others]
    · rintro _ _ rfl
      exact absurd rfl underscore

theorem readSomeDigits?_run {digits rest : List Char} (filled : digits ≠ [])
    (all : digits.all isAsciiDigit = true) (ends : EndsDigits rest) :
    readSomeDigits? 10 (digits ++ rest) = some (digits, rest) := by
  cases digits with
  | nil => exact absurd rfl filled
  | cons c more =>
    obtain ⟨digit, others⟩ := Bool.and_eq_true_iff.mp all
    rw [List.cons_append, readSomeDigits?, if_pos (isSome_digitIn? digit),
      readDigits?_run others ends]
    rfl

end Digits

section Numerals

/-- The digits around the point of a number, if any, are over here. An exponent may follow. -/
def EndsMantissa (rest : List Char) : Prop :=
  ∀ c ∈ rest.head?, c.isDigit = false ∧ c ≠ '.' ∧ (startsName c = true → c = 'e' ∨ c = 'E')

/-- No number and no name goes on here. -/
def EndsNumber (rest : List Char) : Prop :=
  ∀ c ∈ rest.head?, c.isDigit = false ∧ c ≠ '.' ∧ startsName c = false ∧ c ≠ '\\'

variable {rest : List Char}

theorem EndsNumber.endsMantissa (ends : EndsNumber rest) : EndsMantissa rest := by
  intro c first
  obtain ⟨digit, point, name, -⟩ := ends c first
  exact ⟨digit, point, fun starts => by rw [name] at starts; cases starts⟩

/-- Letters of other kinds of numbers. -/
def letters : List Char :=
  ['_', 'n', 'x', 'X', 'o', 'O', 'b', 'B']

theorem startsName_letters : ∀ c ∈ 'e' :: 'E' :: letters, startsName c = true :=
  List.all_eq_true.mp (by decide +kernel)

theorem EndsMantissa.ne (ends : EndsMantissa rest) {c d : Char} (first : c ∈ rest.head?)
    (letter : d ∈ letters) : c ≠ d := by
  rintro rfl
  have starts := startsName_letters c (List.mem_cons_of_mem _ (List.mem_cons_of_mem _ letter))
  obtain rfl | rfl := (ends c first).2.2 starts
  · exact absurd letter (by decide)
  · exact absurd letter (by decide)

theorem EndsMantissa.endsDigits (ends : EndsMantissa rest) : EndsDigits rest :=
  fun c first => ⟨(ends c first).1, ends.ne first (by decide)⟩

theorem readPointDigits?_fraction {fraction : Option (List Char)}
    (all : ∀ digits ∈ fraction, digits.all isAsciiDigit = true) (ends : EndsMantissa rest) :
    readPointDigits? (fractionChars fraction ++ rest) = some (fraction.getD [], rest) := by
  cases fraction with
  | none =>
    cases rest with
    | nil => rfl
    | cons c more =>
      have point := (ends c rfl).2.1
      rw [fractionChars, List.nil_append]
      unfold readPointDigits?
      split
      · rename_i same; cases same; exact absurd rfl point
      · rename_i same; cases same; exact absurd rfl point
      · rfl
  | some digits =>
    have own := all digits rfl
    rw [fractionChars, List.cons_append]
    cases digits with
    | nil =>
      cases rest with
      | nil => rfl
      | cons c more =>
        rw [List.nil_append, readPointDigits?, (ends c rfl).1]
        rfl
    | cons c more =>
      obtain ⟨digit, others⟩ := Bool.and_eq_true_iff.mp own
      rw [List.cons_append, readPointDigits?, isDigit_eq_isAsciiDigit, if_pos digit,
        readDigits?_run others ends.endsDigits]
      rfl

/-- The number that a literal's digits stand for, once the exponent behind them is read. -/
def scaled (whole fraction : List Char) (exponent : Int) : Double :=
  .ofDecimal false (Number.naturalOf (whole ++ fraction)) (exponent - fraction.length)

theorem readFraction?_fraction (whole : List Char) {fraction : Option (List Char)}
    (all : ∀ digits ∈ fraction, digits.all isAsciiDigit = true) (ends : EndsMantissa rest) :
    readFraction? whole false (fractionChars fraction ++ rest) =
      (readExponent? rest).map fun found =>
        (.double (scaled whole (fraction.getD []) found.1) false, found.2) := by
  rw [readFraction?, readPointDigits?_fraction all ends]
  rfl

/-- What follows the digits before the point is no mark of another kind of number. -/
theorem ends_fraction (fraction : Option (List Char)) (ends : EndsMantissa rest) :
    ∀ c ∈ (fractionChars fraction ++ rest).head?,
      c.isDigit = false ∧ c ∉ letters := by
  intro c first
  cases fraction with
  | none => exact ⟨(ends c first).1, fun member => ends.ne first member rfl⟩
  | some digits =>
    cases first
    decide

theorem readEnding_other {chars : List Char} (other : 'n' ∉ chars.head?) (integer : Nat)
    (number : List Char → Option (Numeral × List Char)) :
    readEnding integer number chars = number chars := by
  unfold readEnding
  split
  · exact absurd rfl other
  · rfl

theorem readZero?_fraction (fraction : Option (List Char)) (ends : EndsMantissa rest) :
    readZero? (fractionChars fraction ++ rest) =
      readFraction? ['0'] false (fractionChars fraction ++ rest) := by
  have next := ends_fraction fraction ends
  cases same : fractionChars fraction ++ rest with
  | nil => rfl
  | cons c more =>
    rw [same] at next
    obtain ⟨digit, letter⟩ := next c rfl
    have noMark : 'n' ∉ (c :: more).head? := by
      rintro ⟨⟩
      exact letter (by decide)
    have noBase : baseOf? c = none := by
      unfold baseOf?
      split <;> first | exact absurd (by decide) letter | rfl
    rw [readZero?, noBase]
    simp only [digit, Bool.false_eq_true, if_false]
    exact readEnding_other noMark 0 _

theorem readNumeral?_mantissa {whole : List Char} {fraction : Option (List Char)}
    (isWhole : whole = [] ∨ IsWhole isAsciiDigit whole)
    (all : ∀ digits ∈ fraction, digits.all isAsciiDigit = true)
    (filled : whole = [] → fraction.isSome = true) (ends : EndsMantissa rest) :
    readNumeral? (whole ++ (fractionChars fraction ++ rest)) =
      (readExponent? rest).map fun found =>
        (.double (scaled whole (fraction.getD []) found.1) false, found.2) := by
  rw [← readFraction?_fraction whole all ends]
  obtain rfl | rfl | ⟨first, digits, rfl, low, high, areDigits⟩ := isWhole
  · obtain ⟨digits, rfl⟩ := Option.isSome_iff_exists.mp (filled rfl)
    rfl
  · exact readZero?_fraction fraction ends
  · have own : (first :: digits).all isAsciiDigit = true := by
      have zero : '0' ≤ first := Char.le_trans (by decide) low
      rw [List.all_cons, areDigits, isAsciiDigit, decide_eq_true zero, decide_eq_true high]
      rfl
    have next := ends_fraction fraction ends
    have stops : EndsDigits (fractionChars fraction ++ rest) := fun c member =>
      ⟨(next c member).1, fun same => (next c member).2 (same ▸ by decide)⟩
    have noMark : 'n' ∉ (fractionChars fraction ++ rest).head? := fun member =>
      (next 'n' member).2 (by decide)
    have read := readSomeDigits?_run (List.cons_ne_nil first digits) own stops
    have nonzero : first ≠ '0' := by
      rintro rfl
      exact absurd low (by decide)
    have point : first ≠ '.' := by
      rintro rfl
      exact absurd low (by decide)
    rw [List.cons_append] at read ⊢
    rw [readNumeral?]
    · rw [read, Option.bind_some]
      exact readEnding_other noMark _ _
    · rintro _ same
      exact point (List.cons.inj same).1
    · rintro _ same
      exact nonzero (List.cons.inj same).1

theorem readExponent?_absent (ends : EndsNumber rest) : readExponent? rest = some (0, rest) := by
  cases rest with
  | nil => rfl
  | cons c more =>
    have name := (ends c rfl).2.2.1
    have other {d : Char} (letter : d ∈ 'e' :: 'E' :: letters) : c ≠ d := by
      rintro rfl
      rw [startsName_letters c letter] at name
      cases name
    simp [readExponent?, other (by decide : 'e' ∈ _), other (by decide : 'E' ∈ _)]

theorem takeSign_digits {sign : Option Char} (isSign : sign ∈ [none, some '+', some '-'])
    {rest : List Char} (other : ∀ c ∈ rest.head?, c ≠ '+' ∧ c ≠ '-') :
    Number.takeSign (sign.toList ++ rest) = (sign, rest) := by
  simp only [List.mem_cons, List.not_mem_nil, or_false] at isSign
  obtain rfl | rfl | rfl := isSign
  · cases rest with
    | nil => rfl
    | cons c more =>
      obtain ⟨plus, minus⟩ := other c rfl
      unfold Number.takeSign
      split
      · rename_i same; cases same; exact absurd rfl plus
      · rename_i same; cases same; exact absurd rfl minus
      · rfl
  · rfl
  · rfl

theorem readExponent?_digits {exponent : Exponent} (formed : exponent.Formed isAsciiDigit)
    (ends : EndsNumber rest) :
    readExponent? (exponent.chars ++ rest) = some (exponent.value, rest) := by
  obtain ⟨mark, sign, filled, all⟩ := formed
  have isMark : (exponent.mark == 'e' || exponent.mark == 'E') = true := by simpa using mark
  have unsigned : ∀ c ∈ (exponent.digits ++ rest).head?, c ≠ '+' ∧ c ≠ '-' := by
    cases own : exponent.digits with
    | nil => exact absurd own filled
    | cons c more =>
      rw [own] at all
      have digit := (Bool.and_eq_true_iff.mp all).1
      rintro _ ⟨⟩
      constructor
      · rintro rfl; exact absurd digit (by decide)
      · rintro rfl; exact absurd digit (by decide)
  rw [Exponent.chars, List.cons_append, List.append_assoc, readExponent?, if_pos isMark,
    takeSign_digits sign unsigned]
  simp only [readSomeDigits?_run filled all ends.endsMantissa.endsDigits]
  rfl

theorem readExponent?_exponent {exponent : Option Exponent}
    (formed : ∀ own ∈ exponent, own.Formed isAsciiDigit) (ends : EndsNumber rest) :
    readExponent? (exponentText exponent ++ rest) =
      some ((exponent.map Exponent.value).getD 0, rest) := by
  cases exponent with
  | none => exact readExponent?_absent ends
  | some exponent => exact readExponent?_digits (formed exponent rfl) ends

end Numerals

section Tokens

variable {rest : List Char} {literal : Literal}

theorem endsMantissa_mark {mark : Char} (isMark : mark ∈ ['e', 'E']) (rest : List Char) :
    EndsMantissa (mark :: rest) := by
  simp only [List.mem_cons, List.not_mem_nil, or_false] at isMark
  rintro _ ⟨⟩
  refine ⟨?_, ?_, fun _ => isMark⟩
  · obtain rfl | rfl := isMark <;> rfl
  · obtain rfl | rfl := isMark <;> decide

theorem endsMantissa_exponent {exponent : Option Exponent}
    (marks : ∀ own ∈ exponent, own.mark ∈ ['e', 'E']) (ends : EndsMantissa rest) :
    EndsMantissa (exponentText exponent ++ rest) := by
  cases exponent with
  | none => exact ends
  | some exponent => exact endsMantissa_mark (marks exponent rfl) _

theorem body_append (literal : Literal) (rest : List Char) :
    literal.body ++ rest =
      literal.whole ++ (fractionChars literal.fraction ++ (exponentText literal.exponent ++ rest)) := by
  simp only [Literal.body, List.append_assoc]

theorem readNumeral?_body (formed : literal.Formed isAsciiDigit) (ends : EndsNumber rest) :
    readNumeral? (literal.body ++ rest) = some (.double literal.magnitude false, rest) := by
  have filled (empty : literal.whole = []) : literal.fraction.isSome = true := by
    obtain ⟨digits, own, -⟩ := formed.filled empty
    rw [own]
    rfl
  rw [body_append, readNumeral?_mantissa formed.whole formed.fraction filled
      (endsMantissa_exponent (fun own member => (formed.exponent own member).mark)
        ends.endsMantissa), readExponent?_exponent formed.exponent ends]
  rfl

/-- A number starts with a digit of ASCII, or with a point and a digit of this kind. -/
def StartsNumber (isDigit : Char → Bool) (chars : List Char) : Prop :=
  ∃ c more, chars = c :: more ∧
    (isAsciiDigit c = true ∨ c = '.' ∧ ∃ d ∈ more.head?, isDigit d = true)

theorem startsNumber_body {isDigit : Char → Bool} (formed : literal.Formed isDigit)
    (rest : List Char) : StartsNumber isDigit (literal.body ++ rest) := by
  rw [body_append]
  obtain empty | zero | ⟨c, more, own, low, high, -⟩ := formed.whole
  · obtain ⟨digits, own, filled⟩ := formed.filled empty
    rw [empty, own]
    cases digits with
    | nil => exact absurd rfl filled
    | cons d others =>
      have digit := (Bool.and_eq_true_iff.mp (formed.fraction _ own)).1
      exact ⟨'.', _, rfl, .inr ⟨rfl, d, rfl, digit⟩⟩
  · rw [zero]
    exact ⟨'0', _, rfl, .inl rfl⟩
  · rw [own]
    refine ⟨c, _, rfl, .inl (Bool.and_eq_true_iff.mpr ⟨decide_eq_true ?_, decide_eq_true high⟩)⟩
    exact Char.le_trans (by decide) low

theorem startsName_digit {c : Char} (digit : isAsciiDigit c = true) : startsName c = false := by
  have all : (Number.asciiDigits.all fun c => !startsName c) = true := by decide +kernel
  simpa using List.all_eq_true.mp all c (Number.mem_asciiDigits digit)

theorem readToken_number {chars : List Char} (starts : StartsNumber isAsciiDigit chars) :
    readToken chars = readNumber chars := by
  obtain ⟨c, more, rfl, digit | ⟨rfl, d, head, digit⟩⟩ := starts
  · have other (mark : Char) (isMark : isAsciiDigit mark = false) : c ≠ mark := by
      rintro rfl
      rw [digit] at isMark
      cases isMark
    simp [readToken, startsName_digit digit, other '\\' rfl, other '#' rfl,
      isDigit_eq_isAsciiDigit, digit]
  · have name : startsName '.' = false := (outside_names (by decide)).1
    have point : more.head?.any Char.isDigit = true := by
      rw [Option.mem_def.mp head, Option.any_some, isDigit_eq_isAsciiDigit, digit]
    simp [readToken, name, point]

theorem opensToken_digit {c : Char} (digit : isAsciiDigit c = true) (rest : List Char) :
    OpensToken (c :: rest) := by
  have all : (Number.asciiDigits.all fun c => !isBlank c && !isLineEnd c && c != '/') = true := by
    decide +kernel
  have own := List.all_eq_true.mp all c (Number.mem_asciiDigits digit)
  simp only [Bool.and_eq_true, Bool.not_eq_true', bne_iff_ne] at own
  exact opensToken_of own.1.1 own.1.2 own.2 rest

theorem opensToken_number {isDigit : Char → Bool} {chars : List Char}
    (starts : StartsNumber isDigit chars) : OpensToken chars := by
  obtain ⟨c, more, rfl, digit | ⟨rfl, -⟩⟩ := starts
  · exact opensToken_digit digit more
  · exact opensToken_of rfl rfl (by decide) more

/-- A literal with ASCII digits is one token, and the token's value is the literal's. -/
theorem readToken_body (formed : literal.Formed isAsciiDigit) (ends : EndsNumber rest) :
    readToken (literal.body ++ rest) = (.number literal.magnitude false, rest) := by
  have stops : (rest.head?.any fun c => startsName c || c.isDigit || c == '\\') = false := by
    cases rest with
    | nil => rfl
    | cons c more =>
      obtain ⟨digit, -, name, backslash⟩ := ends c rfl
      simp [digit, name, backslash]
  rw [readToken_number (startsNumber_body formed rest), readNumber,
    readNumeral?_body formed ends]
  simp [stops]

end Tokens

section Foreign

/-- A digit of another script than ASCII. -/
def IsForeign (c : Char) : Prop :=
  Number.isDigit c = true ∧ 128 ≤ c.toNat

/-- Characters beyond ASCII that a name starts with, or that stand between tokens. -/
def tokenGaps : Text.Ranges :=
  (0xa0, 0xa0) :: (0xfeff, 0xfeff) :: (0x1680, 0x1680) :: (0x2000, 0x200a) :: (0x202f, 0x202f) ::
    (0x205f, 0x205f) :: (0x3000, 0x3000) :: (0x2028, 0x2029) :: Text.identifierStarts

theorem holds_eq_true {ranges : Text.Ranges} {c : Char} :
    ranges.holds c = true ↔ ∃ range ∈ ranges, range.1 ≤ c.toNat ∧ c.toNat ≤ range.2 := by
  simp [Text.Ranges.holds]

theorem tokenGaps_apart : (Text.decimalDigits.all fun digits =>
    tokenGaps.all fun gap => Nat.blt digits.2 gap.1 || Nat.blt gap.2 digits.1) = true := by
  decide +kernel

variable {c : Char}

theorem IsForeign.notGap (foreign : IsForeign c) : tokenGaps.holds c = false := by
  refine Bool.eq_false_iff.mpr fun gap => ?_
  obtain ⟨digits, isDigits, low, high⟩ := holds_eq_true.mp foreign.1
  obtain ⟨other, isGap, start, stop⟩ := holds_eq_true.mp gap
  have apart := List.all_eq_true.mp (List.all_eq_true.mp tokenGaps_apart digits isDigits) other isGap
  rw [Bool.or_eq_true, Nat.blt_eq, Nat.blt_eq] at apart
  omega

theorem IsForeign.ne (foreign : IsForeign c) {d : Char} (ascii : d.toNat < 128) : c ≠ d := by
  rintro rfl
  exact absurd foreign.2 (Nat.not_le.mpr ascii)

theorem IsForeign.ne_gap (foreign : IsForeign c) {d : Char} (gap : tokenGaps.holds d = true) :
    c ≠ d := by
  rintro rfl
  rw [foreign.notGap] at gap
  cases gap

theorem IsForeign.opensToken (foreign : IsForeign c) (rest : List Char) :
    OpensToken (c :: rest) := by
  have space : ('\u2000' ≤ c && c ≤ '\u200a') = false := by
    refine Bool.eq_false_iff.mpr fun between => ?_
    obtain ⟨low, high⟩ := Bool.and_eq_true_iff.mp between
    have gap : tokenGaps.holds c = true :=
      holds_eq_true.mpr ⟨(0x2000, 0x200a), by decide, of_decide_eq_true low, of_decide_eq_true high⟩
    rw [foreign.notGap] at gap
    cases gap
  refine opensToken_of ?_ ?_ (foreign.ne (by decide)) rest
  · rw [isBlank, space]
    simp [foreign.ne (by decide : (' ').toNat < 128), foreign.ne (by decide : ('\t').toNat < 128),
      foreign.ne (by decide : ('\x0b').toNat < 128), foreign.ne (by decide : ('\x0c').toNat < 128),
      foreign.ne_gap (by decide : tokenGaps.holds '\u00a0' = true),
      foreign.ne_gap (by decide : tokenGaps.holds '\ufeff' = true),
      foreign.ne_gap (by decide : tokenGaps.holds '\u1680' = true),
      foreign.ne_gap (by decide : tokenGaps.holds '\u202f' = true),
      foreign.ne_gap (by decide : tokenGaps.holds '\u205f' = true),
      foreign.ne_gap (by decide : tokenGaps.holds '\u3000' = true)]
  · simp [isLineEnd, foreign.ne (by decide : ('\n').toNat < 128),
      foreign.ne (by decide : ('\r').toNat < 128),
      foreign.ne_gap (by decide : tokenGaps.holds '\u2028' = true),
      foreign.ne_gap (by decide : tokenGaps.holds '\u2029' = true)]

theorem IsForeign.isDigit (foreign : IsForeign c) : c.isDigit = false := by
  refine Bool.eq_false_iff.mpr fun digit => ?_
  rw [isDigit_eq_isAsciiDigit] at digit
  have ascii := (Number.toNat_of_isAsciiDigit digit).2
  have own := foreign.2
  omega

theorem IsForeign.startsName (foreign : IsForeign c) : startsName c = false := by
  have table : Text.identifierStarts.holds c = false := by
    refine Bool.eq_false_iff.mpr fun starts => ?_
    obtain ⟨range, member, bounds⟩ := holds_eq_true.mp starts
    have gap : tokenGaps.holds c = true :=
      holds_eq_true.mpr ⟨range, by simp [tokenGaps, member], bounds⟩
    rw [foreign.notGap] at gap
    cases gap
  have letter : c.isAlpha = false := by
    refine Bool.eq_false_iff.mpr fun alpha => ?_
    have start : isNameStart c = true := by
      rw [isNameStart]
      exact Bool.or_eq_true_iff.mpr (.inl (Bool.or_eq_true_iff.mpr (.inl alpha)))
    exact absurd foreign.2 (Nat.not_le.mpr (toNat_lt_of_isNameStart start))
  simp [Script.startsName, Text.startsIdentifier, table, letter,
    foreign.ne (by decide : ('$').toNat < 128), foreign.ne (by decide : ('_').toNat < 128)]

theorem IsForeign.endsNumber (foreign : IsForeign c) (rest : List Char) :
    EndsNumber (c :: rest) := by
  rintro _ ⟨⟩
  exact ⟨foreign.isDigit, foreign.ne (by decide), foreign.startsName, foreign.ne (by decide)⟩

theorem ascii_marks : ∀ mark ∈ marks, ∃ first ∈ mark.toList.head?, first.toNat < 128 := by
  have all : (marks.all fun mark => mark.toList.head?.any fun first => first.toNat < 128) = true := by
    decide
  intro mark member
  obtain ⟨first, head, low⟩ := (Option.any_eq_true ..).mp (List.all_eq_true.mp all mark member)
  exact ⟨first, head, of_decide_eq_true low⟩

theorem IsForeign.readToken (foreign : IsForeign c) (rest : List Char) :
    readToken (c :: rest) = (.broken, []) := by
  have noMark : marks.find? (markFits (c :: rest)) = none := by
    refine List.find?_eq_none.mpr fun mark member fits => ?_
    obtain ⟨first, head, ascii⟩ := ascii_marks mark member
    obtain ⟨more, shape⟩ := List.head?_eq_some_iff.mp head
    have starts := (Bool.and_eq_true_iff.mp fits).1
    rw [shape, List.isPrefixOf, Bool.and_eq_true] at starts
    exact foreign.ne ascii (beq_iff_eq.mp starts.1).symm
  have plain : c ∉ ['\\', '#', '\x27', '"', '\x60'] := by
    intro member
    simp only [List.mem_cons, List.not_mem_nil, or_false] at member
    obtain rfl | rfl | rfl | rfl | rfl := member <;> exact absurd foreign.2 (by decide)
  rw [readToken_mark foreign.startsName plain foreign.isDigit
    fun point => absurd point (foreign.ne (by decide)), readMark, noMark]

/-- A number is broken off by a digit of another script, before or after its first token. -/
inductive BreaksOff (chars : List Char) : Prop where
  | within (broken : readToken chars = (.broken, []))
  | after {token : Token} {c : Char} {rest : List Char} (foreign : IsForeign c)
      (read : readToken chars = (token, c :: rest))
      (isToken : token = .mark "." ∨ ∃ value, token = .number value false)

/-- What stands before the foreign digit is a literal of its own. -/
theorem BreaksOff.of_literal {literal : Literal} (formed : literal.Formed isAsciiDigit)
    (foreign : IsForeign c) (rest : List Char) : BreaksOff (literal.body ++ c :: rest) :=
  .after foreign (readToken_body formed (foreign.endsNumber rest)) (.inr ⟨_, rfl⟩)

variable {whole : List Char} {fraction : Option (List Char)} {exponent : Exponent}

theorem breaksOff_whole {first : Char} {before : List Char} (low : '1' ≤ first)
    (high : first ≤ '9') (digits : before.all isAsciiDigit = true) (foreign : IsForeign c)
    (after : List Char) : BreaksOff (first :: (before ++ c :: after)) := by
  have formed : Literal.Formed isAsciiDigit ⟨none, first :: before, none, none⟩ :=
    ⟨by simp, .inr (.inr ⟨first, before, rfl, low, high, digits⟩), nofun, nofun, nofun⟩
  have breaks := BreaksOff.of_literal formed foreign after
  rwa [body_append] at breaks

theorem breaksOff_fraction {before : List Char}
    (isWhole : whole = [] ∨ IsWhole isAsciiDigit whole) (digits : before.all isAsciiDigit = true)
    (foreign : IsForeign c) (after : List Char) :
    BreaksOff (whole ++ '.' :: (before ++ c :: after)) := by
  by_cases empty : whole = [] ∧ before = []
  · -- Nothing but the point stands before the digit.
    obtain ⟨rfl, rfl⟩ := empty
    refine .after foreign (readToken_point ?_) (.inl rfl)
    rintro _ ⟨⟩
    exact ⟨foreign.isDigit, foreign.ne (by decide)⟩
  · have formed : Literal.Formed isAsciiDigit ⟨none, whole, some before, none⟩ := by
      refine ⟨by simp, isWhole, ?_, fun none => ⟨before, rfl, fun noDigits => ?_⟩, nofun⟩
      · rintro _ ⟨⟩
        exact digits
      · exact empty ⟨none, noDigits⟩
    have breaks := BreaksOff.of_literal formed foreign after
    rwa [body_append] at breaks

theorem breaksOff_exponent {before after : List Char}
    (mantissa : Literal.Formed isAsciiDigit ⟨none, whole, fraction, none⟩)
    (mark : exponent.mark ∈ ['e', 'E']) (sign : exponent.sign ∈ [none, some '+', some '-'])
    (shape : exponent.digits = before ++ c :: after) (digits : before.all isAsciiDigit = true)
    (foreign : IsForeign c) (rest : List Char) :
    BreaksOff (whole ++ (fractionChars fraction ++ (exponent.chars ++ rest))) := by
  cases before with
  | cons d more =>
    have formed : Literal.Formed isAsciiDigit
        ⟨none, whole, fraction, some ⟨exponent.mark, exponent.sign, d :: more⟩⟩ := by
      refine { mantissa with exponent := ?_ }
      rintro _ ⟨⟩
      exact ⟨mark, sign, List.cons_ne_nil d more, digits⟩
    have breaks := BreaksOff.of_literal formed foreign (after ++ rest)
    rw [body_append] at breaks
    simpa [exponentText, Exponent.chars, shape] using breaks
  | nil =>
    -- A mark without digits of its own breaks the number itself.
    have noExponent : readExponent? (exponent.chars ++ rest) = none := by
      have isMark : (exponent.mark == 'e' || exponent.mark == 'E') = true := by simpa using mark
      have unsigned : ∀ d ∈ (exponent.digits ++ rest).head?, d ≠ '+' ∧ d ≠ '-' := by
        rw [shape]
        rintro _ ⟨⟩
        exact ⟨foreign.ne (by decide), foreign.ne (by decide)⟩
      rw [Exponent.chars, List.cons_append, List.append_assoc, readExponent?, if_pos isMark,
        takeSign_digits sign unsigned, shape]
      simp [readSomeDigits?, digitIn?_other foreign.isDigit]
    have starts : StartsNumber isAsciiDigit
        (whole ++ (fractionChars fraction ++ (exponent.chars ++ rest))) := by
      have own := startsNumber_body mantissa (exponent.chars ++ rest)
      rwa [body_append] at own
    have filled (empty : whole = []) : fraction.isSome = true := by
      obtain ⟨own, same, -⟩ := mantissa.filled empty
      exact Option.isSome_iff_exists.mpr ⟨own, same⟩
    have noNumeral :
        readNumeral? (whole ++ (fractionChars fraction ++ (exponent.chars ++ rest))) = none := by
      have ends : EndsMantissa (exponent.chars ++ rest) := endsMantissa_mark mark _
      rw [readNumeral?_mantissa mantissa.whole mantissa.fraction filled ends, noExponent]
      rfl
    refine .within ?_
    rw [readToken_number starts, readNumber, noNumeral]

theorem isWhole_cases (isWhole : IsWhole Number.isDigit whole) :
    IsWhole isAsciiDigit whole ∨ ∃ first before c after, whole = first :: (before ++ c :: after) ∧
      '1' ≤ first ∧ first ≤ '9' ∧ before.all isAsciiDigit = true ∧ IsForeign c := by
  obtain rfl | ⟨first, digits, rfl, low, high, all⟩ := isWhole
  · exact .inl (.inl rfl)
  · obtain own | ⟨before, c, after, rfl, plain, foreign⟩ := Number.digits_cases all
    · exact .inl (.inr ⟨first, digits, rfl, low, high, own⟩)
    · exact .inr ⟨first, before, c, after, rfl, low, high, plain, foreign⟩

/-- A number with a digit of another script is broken off. -/
theorem breaksOff_body {literal : Literal} (formed : literal.Formed Number.isDigit)
    (mixed : Number.isAscii literal.body = false) (rest : List Char) :
    BreaksOff (literal.body ++ rest) := by
  obtain ⟨sign, whole, fraction, exponent⟩ := literal
  rw [body_append]
  refine Classical.byContradiction fun unbroken => ?_
  have wholes : whole = [] ∨ IsWhole isAsciiDigit whole := by
    refine formed.whole.imp_right fun isWhole => (isWhole_cases isWhole).resolve_right ?_
    rintro ⟨first, before, c, after, rfl, low, high, digits, foreign⟩
    refine unbroken ?_
    have breaks := breaksOff_whole low high digits foreign
      (after ++ (fractionChars fraction ++ (exponentText exponent ++ rest)))
    simpa using breaks
  have fractions : ∀ digits ∈ fraction, digits.all isAsciiDigit = true := by
    rintro _ rfl
    refine (Number.digits_cases (formed.fraction _ rfl)).resolve_right ?_
    rintro ⟨before, c, after, rfl, digits, foreign⟩
    refine unbroken ?_
    have breaks := breaksOff_fraction wholes digits foreign
      (after ++ (exponentText exponent ++ rest))
    simpa [fractionChars] using breaks
  have exponents : ∀ own ∈ exponent, own.Formed isAsciiDigit := by
    rintro own rfl
    obtain ⟨mark, signs, filled, all⟩ := formed.exponent own rfl
    refine ⟨mark, signs, filled, (Number.digits_cases all).resolve_right ?_⟩
    rintro ⟨before, c, after, shape, digits, foreign⟩
    have mantissa : Literal.Formed isAsciiDigit ⟨none, whole, fraction, none⟩ :=
      ⟨by simp, wholes, fractions, formed.filled, by simp⟩
    exact unbroken (breaksOff_exponent mantissa mark signs shape digits foreign rest)
  have plain : Literal.Formed isAsciiDigit ⟨sign, whole, fraction, exponent⟩ :=
    ⟨formed.sign, wholes, fractions, formed.filled, exponents⟩
  rw [plain.decimalLiteral.ascii] at mixed
  cases mixed

end Foreign

end FootprintTemplate.Script
