import FootprintTemplate.Number.Read
import FootprintTemplate.Proofs.Number.Literal

/-! Decimal literals. A number of the source whose characters are ASCII is a sign before a literal of a
script's decimal numbers; its mirror image has other signs before the same literal. -/
namespace FootprintTemplate.Number

section Grammar

/-- The digits before the point: a zero alone, or digits that do not start with one. -/
inductive DecimalInteger : List Char → Prop where
  | zero : DecimalInteger ['0']
  | positive {first : Char} {rest : List Char} (low : '1' ≤ first) (high : first ≤ '9')
      (areDigits : rest.all isAsciiDigit = true) : DecimalInteger (first :: rest)

inductive ExponentPart : List Char → Prop where
  | absent : ExponentPart []
  | present {mark : Char} {sign digits : List Char} (isMark : mark ∈ ['e', 'E'])
      (isSign : sign ∈ [[], ['+'], ['-']]) (filled : digits ≠ [])
      (areDigits : digits.all isAsciiDigit = true) : ExponentPart (mark :: (sign ++ digits))

/-- The decimal literals of a script. Older forms, with digits after a leading zero, are none. -/
inductive DecimalLiteral : List Char → Prop where
  | whole {integer exponent : List Char} (isInteger : DecimalInteger integer)
      (isExponent : ExponentPart exponent) : DecimalLiteral (integer ++ exponent)
  | pointed {integer fraction exponent : List Char} (isInteger : DecimalInteger integer)
      (areDigits : fraction.all isAsciiDigit = true) (isExponent : ExponentPart exponent) :
      DecimalLiteral (integer ++ '.' :: fraction ++ exponent)
  | point {fraction exponent : List Char} (filled : fraction ≠ [])
      (areDigits : fraction.all isAsciiDigit = true) (isExponent : ExponentPart exponent) :
      DecimalLiteral ('.' :: fraction ++ exponent)

end Grammar

section Ascii

def isAscii (chars : List Char) : Bool :=
  chars.all (·.toNat < 128)

theorem isAscii_append {first second : List Char} :
    isAscii (first ++ second) = (isAscii first && isAscii second) :=
  List.all_append

theorem toNat_of_isAsciiDigit {c : Char} (digit : isAsciiDigit c = true) :
    48 ≤ c.toNat ∧ c.toNat ≤ 57 := by
  obtain ⟨low, high⟩ := Bool.and_eq_true_iff.mp digit
  exact ⟨of_decide_eq_true low, of_decide_eq_true high⟩

theorem forall_ascii (property : Char → Prop) (all : ∀ n < 128, property (Char.ofNat n)) {c : Char}
    (ascii : c.toNat < 128) : property c := by
  have own := all c.toNat ascii
  rwa [Char.ofNat_toNat] at own

theorem isAsciiDigit_of_isDigit {c : Char} (digit : isDigit c = true) (ascii : c.toNat < 128) :
    isAsciiDigit c = true :=
  forall_ascii (fun c => isDigit c = true → isAsciiDigit c = true)
    (by decide +kernel) ascii digit

def asciiDigits : List Char :=
  ['0', '1', '2', '3', '4', '5', '6', '7', '8', '9']

theorem mem_asciiDigits {c : Char} (digit : isAsciiDigit c = true) : c ∈ asciiDigits := by
  have bounds := toNat_of_isAsciiDigit digit
  exact forall_ascii (fun c => isAsciiDigit c = true → c ∈ asciiDigits)
    (by decide +kernel) (by omega) digit

theorem isAscii_digits {digits : List Char} (all : digits.all isAsciiDigit = true) :
    isAscii digits = true := by
  refine List.all_eq_true.mpr fun c member => decide_eq_true ?_
  have bounds := toNat_of_isAsciiDigit (List.all_eq_true.mp all c member)
  omega

/-- Digits of ASCII up to a first one that is not, if there is any. -/
theorem digits_cases {digits : List Char} (all : digits.all isDigit = true) :
    digits.all isAsciiDigit = true ∨
      ∃ before c after, digits = before ++ c :: after ∧ before.all isAsciiDigit = true ∧
        isDigit c = true ∧ 128 ≤ c.toNat := by
  induction digits with
  | nil => exact .inl rfl
  | cons c rest ih =>
    obtain ⟨digit, others⟩ := Bool.and_eq_true_iff.mp all
    by_cases ascii : c.toNat < 128
    · have own := isAsciiDigit_of_isDigit digit ascii
      obtain plain | ⟨before, d, after, rfl, plain, more⟩ := ih others
      · exact .inl (by rw [List.all_cons, own, plain]; rfl)
      · exact .inr ⟨c :: before, d, after, rfl, by rw [List.all_cons, own, plain]; rfl, more⟩
    · exact .inr ⟨[], c, rest, rfl, rfl, digit, Nat.le_of_not_lt ascii⟩

end Ascii

section Formed

/-- Where the digits before the point may start, and what may follow them. -/
def IsWhole (isDigit : Char → Bool) (whole : List Char) : Prop :=
  whole = ['0'] ∨ ∃ first rest, whole = first :: rest ∧ '1' ≤ first ∧ first ≤ '9' ∧
    rest.all isDigit = true

structure Exponent.Formed (isDigit : Char → Bool) (exponent : Exponent) : Prop where
  mark : exponent.mark ∈ ['e', 'E']
  sign : exponent.sign ∈ [none, some '+', some '-']
  filled : exponent.digits ≠ []
  digits : exponent.digits.all isDigit = true

/-- The parts of a literal with digits of this kind. -/
structure Literal.Formed (isDigit : Char → Bool) (literal : Literal) : Prop where
  sign : literal.sign ∈ [none, some '+', some '-']
  whole : literal.whole = [] ∨ IsWhole isDigit literal.whole
  fraction : ∀ digits ∈ literal.fraction, digits.all isDigit = true
  filled : literal.whole = [] → ∃ digits, literal.fraction = some digits ∧ digits ≠ []
  exponent : ∀ exponent ∈ literal.exponent, exponent.Formed isDigit

/-- The text of a literal after its sign. -/
def Literal.body (literal : Literal) : List Char :=
  literal.whole ++ fractionChars literal.fraction ++ exponentText literal.exponent

theorem Literal.chars_eq_body (literal : Literal) :
    literal.chars = literal.sign.toList ++ literal.body := by
  simp only [Literal.chars, Literal.body, List.append_assoc]

theorem takeSign_mem (chars : List Char) :
    (takeSign chars).1 ∈ [none, some '+', some '-'] := by
  unfold takeSign
  split <;> simp

theorem takeWhole_formed (chars : List Char) :
    (takeWhole chars).1 = [] ∨ IsWhole isDigit (takeWhole chars).1 := by
  unfold takeWhole
  split
  · exact .inr (.inl rfl)
  · split
    · rename_i first rest _ nonzero
      obtain ⟨low, high⟩ := Bool.and_eq_true_iff.mp nonzero
      exact .inr (.inr ⟨first, _, rfl, of_decide_eq_true low, of_decide_eq_true high,
        List.all_takeWhile⟩)
    · exact .inl rfl
  · exact .inl rfl

theorem takeFraction_formed (chars : List Char) :
    ∀ digits ∈ (takeFraction chars).1, digits.all isDigit = true := by
  unfold takeFraction
  split
  · rintro _ ⟨⟩
    exact List.all_takeWhile
  · exact nofun

theorem readExponent?_formed {chars : List Char} {exponent : Option Exponent}
    (read : readExponent? chars = some exponent) : ∀ own ∈ exponent, own.Formed isDigit := by
  unfold readExponent? at read
  split at read
  · cases Option.some.inj read
    exact nofun
  · rename_i mark rest
    simp only at read
    split at read
    · rename_i valid
      cases Option.some.inj read
      simp only [Bool.and_eq_true, Bool.or_eq_true, beq_iff_eq, Bool.not_eq_true',
        List.isEmpty_eq_false_iff] at valid
      rintro _ ⟨⟩
      exact ⟨by simpa using valid.1.1, takeSign_mem rest, valid.1.2, valid.2⟩
    · cases read

theorem Literal.formed_of_read? {chars : List Char} {literal : Literal}
    (read : Literal.read? chars = some literal) : literal.Formed isDigit := by
  unfold Literal.read? at read
  simp only at read
  split at read
  · cases read
  · rename_i filled
    obtain ⟨exponent, readExponent, rfl⟩ := Option.map_eq_some_iff.mp read
    refine ⟨takeSign_mem chars, takeWhole_formed _, takeFraction_formed _, fun empty => ?_,
      readExponent?_formed readExponent⟩
    dsimp only at empty ⊢
    rw [empty] at filled
    cases own : (takeFraction (takeWhole (takeSign chars).2).2).1 with
    | none => simp [own] at filled
    | some digits =>
      refine ⟨digits, rfl, fun none => ?_⟩
      simp [own, none] at filled

/-- A literal of ASCII characters has ASCII digits. -/
theorem Literal.Formed.ascii {literal : Literal} (formed : literal.Formed isDigit)
    (ascii : isAscii literal.body = true) : literal.Formed isAsciiDigit := by
  have plain {digits : List Char} (all : digits.all isDigit = true) (own : isAscii digits = true) :
      digits.all isAsciiDigit = true :=
    List.all_eq_true.mpr fun c member => isAsciiDigit_of_isDigit
      (List.all_eq_true.mp all c member) (of_decide_eq_true (List.all_eq_true.mp own c member))
  rw [Literal.body, isAscii_append, isAscii_append, Bool.and_eq_true, Bool.and_eq_true] at ascii
  obtain ⟨⟨whole, fraction⟩, exponent⟩ := ascii
  refine ⟨formed.sign, ?_, ?_, formed.filled, ?_⟩
  · refine formed.whole.imp_right (Or.imp_right ?_)
    rintro ⟨first, rest, same, low, high, digits⟩
    rw [same] at whole
    exact ⟨first, rest, same, low, high, plain digits (Bool.and_eq_true_iff.mp whole).2⟩
  · intro digits own
    obtain own := Option.mem_def.mp own
    rw [own, fractionChars, ← List.singleton_append, isAscii_append] at fraction
    exact plain (formed.fraction digits own) (Bool.and_eq_true_iff.mp fraction).2
  · intro part own
    obtain ⟨mark, sign, filled, digits⟩ := formed.exponent part own
    rw [Option.mem_def.mp own, exponentText, Exponent.chars] at exponent
    have tail := (Bool.and_eq_true_iff.mp exponent).2
    rw [← isAscii, isAscii_append] at tail
    exact ⟨mark, sign, filled, plain digits (Bool.and_eq_true_iff.mp tail).2⟩

end Formed

section Spelling

variable {literal : Literal}

theorem IsWhole.decimalInteger {whole : List Char} (isWhole : IsWhole isAsciiDigit whole) :
    DecimalInteger whole := by
  obtain rfl | ⟨first, rest, rfl, low, high, digits⟩ := isWhole
  · exact .zero
  · exact .positive low high digits

theorem exponentPart_of_formed {exponent : Option Exponent}
    (formed : ∀ own ∈ exponent, own.Formed isAsciiDigit) :
    ExponentPart (exponentText exponent) := by
  cases exponent with
  | none => exact .absent
  | some exponent =>
    obtain ⟨mark, sign, filled, digits⟩ := formed exponent rfl
    refine .present mark ?_ filled digits
    simp only [List.mem_cons, List.not_mem_nil, or_false] at sign
    obtain none | plus | minus := sign
    · simp [none]
    · simp [plus]
    · simp [minus]

theorem Literal.Formed.decimalLiteral (formed : literal.Formed isAsciiDigit) :
    DecimalLiteral literal.body := by
  have exponent := exponentPart_of_formed formed.exponent
  rw [Literal.body]
  obtain empty | isWhole := formed.whole
  · obtain ⟨digits, own, filled⟩ := formed.filled empty
    rw [empty, own]
    exact .point filled (formed.fraction digits own) exponent
  · have integer := isWhole.decimalInteger
    cases own : literal.fraction with
    | none =>
      rw [fractionChars, List.append_nil]
      exact .whole integer exponent
    | some digits => exact .pointed integer (formed.fraction digits own) exponent

theorem DecimalInteger.ascii {chars : List Char} (integer : DecimalInteger chars) :
    isAscii chars = true := by
  cases integer with
  | zero => rfl
  | @positive first rest low high digits =>
    have upper : first.toNat ≤ 57 := high
    have own : first.toNat < 128 := by omega
    rw [isAscii, List.all_cons, decide_eq_true own]
    exact isAscii_digits digits

theorem ExponentPart.ascii {chars : List Char} (exponent : ExponentPart chars) :
    isAscii chars = true := by
  cases exponent with
  | absent => rfl
  | @present mark sign digits isMark isSign _ all =>
    have own : isAscii (mark :: sign) = true := by
      simp only [List.mem_cons, List.not_mem_nil, or_false] at isMark isSign
      obtain rfl | rfl := isMark <;> obtain rfl | rfl | rfl := isSign <;> decide
    rw [← List.cons_append, isAscii_append, own, isAscii_digits all]
    rfl

theorem DecimalLiteral.ascii {chars : List Char} (literal : DecimalLiteral chars) :
    isAscii chars = true := by
  have point {digits : List Char} (all : digits.all isAsciiDigit = true) :
      isAscii ('.' :: digits) = true := by
    rw [← List.singleton_append, isAscii_append, isAscii_digits all]
    rfl
  cases literal with
  | whole integer exponent => rw [isAscii_append, integer.ascii, exponent.ascii]; rfl
  | pointed integer digits exponent =>
    rw [isAscii_append, isAscii_append, integer.ascii, point digits, exponent.ascii]
    rfl
  | point filled digits exponent => rw [isAscii_append, point digits, exponent.ascii]; rfl

/-- The signs of a coordinate on the other face. -/
def mirroredSigns : List Char → List Char
  | ['-'] => []
  | signs => '-' :: signs

theorem sign_of_read? {chars : List Char} (read : Literal.read? chars = some literal) :
    literal.sign = (takeSign chars).1 := by
  unfold Literal.read? at read
  simp only at read
  split at read
  · cases read
  · obtain ⟨exponent, -, rfl⟩ := Option.map_eq_some_iff.mp read
    rfl

theorem takeSign_of_read? {chars : List Char} (read : Literal.read? chars = some literal)
    (unsigned : literal.sign = none) : takeSign chars = (none, chars) := by
  have parts := takeSign_append chars
  have own := (sign_of_read? read).symm.trans unsigned
  rw [own] at parts
  exact Prod.ext own parts

/-- A number is its sign before its body, and its mirror image is the same body behind other signs. -/
theorem spelling_of_read? {chars : List Char} (read : Literal.read? chars = some literal) :
    chars = literal.sign.toList ++ literal.body ∧
      mirrorChars chars = mirroredSigns literal.sign.toList ++ literal.body := by
  have spelt := (Literal.chars_of_read? read).symm.trans literal.chars_eq_body
  have sign := (Literal.formed_of_read? read).sign
  refine ⟨spelt, ?_⟩
  simp only [List.mem_cons, List.not_mem_nil, or_false] at sign
  obtain none | plus | minus := sign
  · rw [none] at spelt ⊢
    rw [mirrorChars_unsigned (takeSign_of_read? read none), spelt]
    rfl
  · rw [spelt, plus]
    rfl
  · rw [spelt, minus]
    rfl

end Spelling

end FootprintTemplate.Number
