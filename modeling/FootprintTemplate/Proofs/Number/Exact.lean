import FootprintTemplate.Proofs.Number.Decimal
import FootprintTemplate.Proofs.Number.Reading
import Mathlib.Algebra.Field.Rat
import Mathlib.Tactic.FieldSimp
import Mathlib.Tactic.Ring

/-! Exact values of number literals. A literal spells out a decimal, whatever its length; the number
that a script computes with is the one nearest to it. Mirror images spell out opposite decimals. -/
namespace FootprintTemplate.Number

section Values

/-- The decimal that a literal spells out after its sign. -/
def Literal.exact (literal : Literal) : ℚ :=
  let fraction := literal.fraction.getD []
  (naturalOf literal.whole + naturalOf fraction / 10 ^ fraction.length) *
    10 ^ (literal.exponent.map Exponent.value).getD 0

/-- The decimal that signs and a literal after them spell out. Digits have to be ASCII. -/
def exactOf : List Char → Option ℚ
  | '-' :: rest => (exactOf rest).map (- ·)
  | '+' :: rest => exactOf rest
  | unsigned => if isAscii unsigned then (Literal.read? unsigned).map Literal.exact else none

theorem foldl_digits (start : Nat) (digits : List Char) :
    digits.foldl (fun n c => 10 * n + digitValue c) start =
      start * 10 ^ digits.length + naturalOf digits := by
  induction digits generalizing start with
  | nil => simp [naturalOf]
  | cons c rest ih =>
    have own : naturalOf (c :: rest) = digitValue c * 10 ^ rest.length + naturalOf rest := by
      simpa [naturalOf] using ih (digitValue c)
    rw [List.foldl_cons, ih, own, List.length_cons, Nat.pow_succ]
    ring

theorem naturalOf_append (first second : List Char) :
    naturalOf (first ++ second) = naturalOf first * 10 ^ second.length + naturalOf second := by
  rw [naturalOf, List.foldl_append, foldl_digits, ← naturalOf]

theorem naturalOf_zeros {zeros : List Char} (all : zeros.all (· == '0') = true) :
    naturalOf zeros = 0 := by
  induction zeros with
  | nil => rfl
  | cons c rest ih =>
    obtain ⟨zero, others⟩ := Bool.and_eq_true_iff.mp all
    rw [eq_of_beq zero, ← List.singleton_append, naturalOf_append, ih others]
    simp [naturalOf, digitValue]

end Values

section Nearest

/-- The number is the one nearest to this decimal. -/
def IsNearest (number : Double) (value : ℚ) : Prop :=
  ∃ negative digits exponent, number = .ofDecimal negative digits exponent ∧
    value = (if negative then -1 else 1) * (digits * 10 ^ exponent)

theorem Double.negate_ofRatio (negative : Bool) (num den : Nat) :
    (Double.ofRatio negative num den).negate = .ofRatio (!negative) num den := by
  unfold Double.ofRatio
  split
  · rfl
  · exact apply_ite Double.negate _ _ _

theorem Double.negate_ofDecimal (negative : Bool) (digits : Nat) (exponent : Int) :
    (Double.ofDecimal negative digits exponent).negate =
      .ofDecimal (!negative) digits exponent := by
  unfold Double.ofDecimal
  dsimp only
  split
  · rfl
  · split
    · rfl
    · split
      · rfl
      · exact Double.negate_ofRatio _ _ _

theorem IsNearest.negate {number : Double} {value : ℚ} (nearest : IsNearest number value) :
    IsNearest number.negate (-value) := by
  obtain ⟨negative, digits, exponent, rfl, rfl⟩ := nearest
  refine ⟨!negative, digits, exponent, Double.negate_ofDecimal _ _ _, ?_⟩
  cases negative <;> simp

theorem Literal.isNearest_magnitude (literal : Literal) :
    IsNearest literal.magnitude literal.exact := by
  refine ⟨false, _, _, rfl, ?_⟩
  have ten : (10 : ℚ) ≠ 0 := by norm_num
  simp only [Literal.exact, naturalOf_append, Nat.cast_add, Nat.cast_mul, Nat.cast_pow,
    zpow_sub₀ ten, zpow_natCast]
  field_simp
  simp

theorem exactOf_unsigned {chars : List Char} (unsigned : takeSign chars = (none, chars)) :
    exactOf chars =
      if isAscii chars then (Literal.read? chars).map Literal.exact else none := by
  unfold exactOf
  split
  · cases unsigned
  · cases unsigned
  · rfl

theorem exactOf_natural {digits : List Char} (ascii : isAscii digits = true)
    (read : Literal.read? digits = some ⟨none, digits, none, none⟩) :
    exactOf digits = some (naturalOf digits) := by
  have empty : naturalOf [] = 0 := rfl
  rw [exactOf_unsigned (takeSign_of_read? read rfl), if_pos ascii, read]
  simp [Literal.exact, empty]

/-- What a script reads is the number nearest to the decimal. -/
theorem isNearest_valueOf {chars : List Char} {value : ℚ} (exact : exactOf chars = some value) :
    IsNearest (valueOf chars) value := by
  fun_induction exactOf chars generalizing value with
  | case1 rest ih =>
    obtain ⟨inner, own, rfl⟩ := Option.map_eq_some_iff.mp exact
    rw [valueOf]
    exact (ih own).negate
  | case2 rest ih =>
    rw [valueOf]
    exact ih exact
  | case3 chars notMinus notPlus ascii =>
    obtain ⟨literal, read, rfl⟩ := Option.map_eq_some_iff.mp exact
    have unsigned : takeSign chars = (none, chars) := by
      unfold takeSign
      split
      · exact absurd rfl (notPlus _)
      · exact absurd rfl (notMinus _)
      · rfl
    rw [valueOf_unsigned unsigned, read]
    exact literal.isNearest_magnitude
  | case4 => cases exact

end Nearest

section Mirrored

theorem exactOf_mirrorChars (chars : List Char) :
    exactOf (mirrorChars chars) = (exactOf chars).map (- ·) := by
  unfold mirrorChars
  split
  · rename_i rest
    rw [exactOf, Option.map_map]
    have twice : (fun value : ℚ => -value) ∘ (fun value => -value) = id := by
      funext value
      exact neg_neg value
    rw [twice, Option.map_id, id]
  · rename_i unsigned
    rw [exactOf]

/-- Mirroring takes a minus away or puts one on, and a second time undoes it. -/
theorem mirrorChars_mirrorChars {chars : List Char}
    (number : (Literal.read? chars).isSome = true) : mirrorChars (mirrorChars chars) = chars := by
  by_cases minus : chars.head? = some '-'
  · obtain ⟨rest, rfl⟩ := List.head?_eq_some_iff.mp minus
    exact mirrorChars_unsigned (takeSign_rest_of_read? (.inr rfl) number)
  · have added : mirrorChars chars = '-' :: chars := by
      unfold mirrorChars
      split
      · exact absurd rfl minus
      · rfl
    rw [added]
    rfl

theorem exists_exactOf {text : String} (number : isNumber text = true)
    (ascii : isAscii text.toList = true) : ∃ value, exactOf text.toList = some value := by
  obtain ⟨literal, read⟩ := Option.isSome_iff_exists.mp number
  have own : ∀ chars : List Char, takeSign chars = (none, chars) → isAscii chars = true →
      (Literal.read? chars).isSome = true → ∃ value, exactOf chars = some value := by
    intro chars unsigned plain isLiteral
    obtain ⟨inner, readInner⟩ := Option.isSome_iff_exists.mp isLiteral
    exact ⟨inner.exact, by rw [exactOf_unsigned unsigned, if_pos plain, readInner]; rfl⟩
  have signed : ∀ sign rest, sign = '+' ∨ sign = '-' → text.toList = sign :: rest →
      ∃ value, exactOf rest = some value := by
    intro sign rest isSign shape
    rw [isNumber, shape] at number
    rw [shape] at ascii
    have unsigned := takeSign_rest_of_read? isSign number
    have same : (takeSign rest).2 = (takeSign (sign :: rest)).2 := by
      rw [unsigned]
      obtain rfl | rfl := isSign <;> rfl
    exact own rest unsigned (Bool.and_eq_true_iff.mp ascii).2
      ((read?_isSome_of_takeSign same).trans number)
  generalize shape : text.toList = chars at *
  unfold exactOf
  split
  · rename_i rest
    obtain ⟨value, exact⟩ := signed '-' rest (.inr rfl) rfl
    exact ⟨-value, by rw [exact]; rfl⟩
  · rename_i rest
    exact signed '+' rest (.inl rfl) rfl
  · exact ⟨literal.exact, by rw [if_pos ascii, read]; rfl⟩

theorem exactOf_zeros {chars : List Char} (zero : isPlainZero.unsigned chars = true) :
    exactOf chars = some 0 := by
  unfold isPlainZero.unsigned at zero
  split at zero
  · simp [exactOf, isAscii, Literal.read?, takeSign, takeWhole, takeFraction, readExponent?,
      Literal.exact, naturalOf, digitValue]
  · rename_i zeros
    obtain ⟨filled, all⟩ := Bool.and_eq_true_iff.mp zero
    have plain : ∀ c ∈ zeros, c = '0' := fun c member =>
      eq_of_beq (List.all_eq_true.mp all c member)
    have digits : ∀ c ∈ zeros, isDigit c = true := fun c member => by
      rw [plain c member]
      exact isDigit_ascii (by decide) (by decide)
    have ascii : isAscii ('0' :: '.' :: zeros) = true := by
      refine List.all_eq_true.mpr fun c member => ?_
      simp only [List.mem_cons] at member
      obtain rfl | rfl | member := member
      · rfl
      · rfl
      · rw [plain c member]
        rfl
    have read : Literal.read? ('0' :: '.' :: zeros) = some ⟨none, ['0'], some zeros, none⟩ := by
      simp [Literal.read?, takeSign, takeWhole, takeFraction, readExponent?,
        List.takeWhile_eq_self_iff.mpr digits, List.dropWhile_eq_nil_iff.mpr digits]
    have whole : naturalOf ['0'] = 0 := rfl
    rw [exactOf_unsigned rfl, if_pos ascii, read]
    simp [Literal.exact, naturalOf_zeros all, whole]
  · cases zero

theorem exactOf_plainZero {text : String} (zero : isPlainZero text = true) :
    exactOf text.toList = some 0 := by
  unfold isPlainZero at zero
  split at zero
  · rename_i rest shape
    rw [shape, exactOf, exactOf_zeros zero]
    simp
  · exact exactOf_zeros zero

end Mirrored

end FootprintTemplate.Number
