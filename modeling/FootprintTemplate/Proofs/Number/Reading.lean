import FootprintTemplate.Proofs.Number.Literal
import FootprintTemplate.Proofs.Number.Printing
import FootprintTemplate.Number.Read
import Mathlib.Data.List.TakeWhile

/-! Printed numbers that are read. The digits of a natural number are read as it, and what is printed
for a finite number is a literal wherever it is read at all. -/
namespace FootprintTemplate.Number

section Signs

/-- No sign stands in front. -/
def IsUnsigned (chars : List Char) : Prop :=
  ∀ c ∈ chars.head?, c ≠ '+' ∧ c ≠ '-'

theorem IsUnsigned.takeSign {chars : List Char} (unsigned : IsUnsigned chars) :
    takeSign chars = (none, chars) := by
  unfold Number.takeSign
  split
  · exact absurd rfl (unsigned _ rfl).1
  · exact absurd rfl (unsigned _ rfl).2
  · rfl

theorem isUnsigned_cons {c : Char} (plain : c ≠ '+' ∧ c ≠ '-') (rest : List Char) :
    IsUnsigned (c :: rest) := by
  rintro d ⟨⟩
  exact plain

theorem isUnsigned_digit {c : Char} (digit : c.isDigit = true) (rest : List Char) :
    IsUnsigned (c :: rest) := by
  refine isUnsigned_cons ⟨?_, ?_⟩ rest
  · rintro rfl
    cases digit
  · rintro rfl
    cases digit

theorem AreDigits.isUnsigned_append {digits rest : List Char} (areDigits : AreDigits digits)
    (unsigned : IsUnsigned rest) : IsUnsigned (digits ++ rest) := by
  cases digits with
  | nil => exact unsigned
  | cons c more => exact isUnsigned_digit (areDigits c List.mem_cons_self) _

theorem AreDigits.take {digits : List Char} (areDigits : AreDigits digits) (count : Nat) :
    AreDigits (digits.take count) :=
  fun c member => areDigits c (List.take_subset _ _ member)

theorem isUnsigned_withPoint {digits : List Char} (areDigits : AreDigits digits) (place : Int) :
    IsUnsigned (withPoint digits place) := by
  unfold withPoint
  split
  · exact isUnsigned_cons (by decide) _
  · split
    · refine areDigits.isUnsigned_append ?_
      rw [← List.append_nil (zeros _)]
      exact (areDigits_zeros _).isUnsigned_append nofun
    · exact (areDigits.take _).isUnsigned_append (isUnsigned_cons (by decide) _)

theorem isUnsigned_withExponent {digits : List Char} (areDigits : AreDigits digits) (place : Int) :
    IsUnsigned (withExponent digits place) := by
  unfold withExponent
  rw [List.append_assoc]
  refine (areDigits.take 1).isUnsigned_append ?_
  split
  · exact isUnsigned_cons (by decide) _
  · exact isUnsigned_cons (by decide) _

theorem Style.isUnsigned_unsignedChars (style : Style) (m : Nat) (e : Int) :
    IsUnsigned (style.unsignedChars m e) := by
  simp only [unsignedChars]
  split
  · exact isUnsigned_cons (by decide) _
  · split
    · exact isUnsigned_withPoint (areDigits_digits _) _
    · exact isUnsigned_withExponent (areDigits_digits _) _

end Signs

section Digits

theorem toDigits_head {n : Nat} (positive : 0 < n) :
    ∃ first rest, Nat.toDigits 10 n = first :: rest ∧ '1' ≤ first ∧ first ≤ '9' := by
  induction n using Nat.strongRecOn with
  | ind n ih =>
    by_cases small : n < 10
    · have all : ∀ n < 10, 0 < n → '1' ≤ Nat.digitChar n ∧ Nat.digitChar n ≤ '9' := by decide
      exact ⟨Nat.digitChar n, [], Nat.toDigits_of_lt_base small, all n small positive⟩
    · obtain ⟨first, rest, digits, range⟩ := ih (n / 10) (by omega) (by omega)
      refine ⟨first, rest ++ [Nat.digitChar (n % 10)], ?_, range⟩
      rw [Nat.toDigits_of_base_le (by decide) (by omega), digits]
      rfl

theorem isDigit_of_isDigit {c : Char} (digit : c.isDigit = true) : isDigit c = true := by
  simp only [Char.isDigit, Bool.and_eq_true, decide_eq_true_eq] at digit
  exact isDigit_ascii digit.1 digit.2

theorem isDigit_of_range {c : Char} (low : '1' ≤ c) (high : c ≤ '9') : c.isDigit = true := by
  have zero : '0' ≤ c := Char.le_trans (by decide) low
  simp only [Char.isDigit, Bool.and_eq_true, decide_eq_true_eq]
  exact ⟨zero, high⟩

theorem read?_digits {first : Char} {rest : List Char} (low : '1' ≤ first) (high : first ≤ '9')
    (digits : ∀ c ∈ rest, c.isDigit = true) :
    Literal.read? (first :: rest) = some ⟨none, first :: rest, none, none⟩ := by
  have all : ∀ c ∈ rest, isDigit c = true := fun c member => isDigit_of_isDigit (digits c member)
  have nonzero : first ≠ '0' := by
    rintro rfl
    exact absurd low (by decide)
  have whole : takeWhole (first :: rest) = (first :: rest, []) := by
    unfold takeWhole
    split
    · rename_i shape
      exact absurd (List.cons.inj shape).1 nonzero
    · rename_i c others _ shape
      cases shape
      simp [low, high, List.takeWhile_eq_self_iff.mpr all, List.dropWhile_eq_nil_iff.mpr all]
    · rename_i shape
      cases shape
  have sign := (isUnsigned_digit (isDigit_of_range low high) rest).takeSign
  simp [Literal.read?, sign, whole, takeFraction, readExponent?]

theorem valueOf_unsigned {chars : List Char} (unsigned : takeSign chars = (none, chars)) :
    valueOf chars = ((Literal.read? chars).map Literal.magnitude).getD .nan := by
  unfold valueOf
  split
  · cases unsigned
  · cases unsigned
  · rfl

theorem ofDecimal_natural (n : Nat) : Double.ofDecimal false n 0 = .ofRatio false n 1 := by
  by_cases zero : n = 0
  · rw [zero]
    rfl
  · have near : ¬(0 + ((n.log2 / 3 : Nat) : Int)) < -Double.decimalReach - 1 := by
      simp only [Double.decimalReach]
      omega
    have nonzero : (n == 0) = false := beq_eq_false_iff_ne.mpr zero
    simp only [Double.ofDecimal, nonzero, near, Bool.false_eq_true, if_false]
    exact congrArg (Double.ofRatio false · 1) (Nat.mul_one n)

theorem read_toDigits (n : Nat) :
    (Literal.read? (Nat.toDigits 10 n)).isSome = true ∧
      valueOf (Nat.toDigits 10 n) = .ofRatio false n 1 := by
  by_cases zero : n = 0
  · rw [zero]
    exact ⟨rfl, by decide⟩
  obtain ⟨first, rest, shape, low, high⟩ := toDigits_head (Nat.pos_of_ne_zero zero)
  have digits : ∀ c ∈ rest, c.isDigit = true := by
    intro c member
    have inside : c ∈ Nat.toDigits 10 n := by
      rw [shape]
      exact List.mem_cons_of_mem _ member
    exact Nat.isDigit_of_mem_toDigits (by decide) (by decide) inside
  have read := read?_digits low high digits
  have value : naturalOf (first :: rest) = n := by
    rw [← shape]
    exact Nat.ofDigitChars_ten_toDigits
  have sign := (isUnsigned_digit (isDigit_of_range low high) rest).takeSign
  rw [shape, valueOf_unsigned sign, read]
  refine ⟨rfl, ?_⟩
  rw [Option.map_some, Option.getD_some, Literal.magnitude]
  simp only [Option.getD_none, List.append_nil, value]
  exact ofDecimal_natural n

end Digits

section Reprinted

variable {style : Style} {value : Double}

/-- What is printed for a finite number is one literal, if it can be read at all. -/
theorem isNumber_of_reads (finite : value.isFinite = true)
    (reads : valueOf (style.chars value) ≠ .nan) :
    isNumber (String.ofList (style.chars value)) = true := by
  cases value with
  | nan => cases finite
  | infinity => cases finite
  | finite negative m e =>
    have sign := (style.isUnsigned_unsignedChars m e).takeSign
    have body : valueOf (style.unsignedChars m e) ≠ .nan →
        (Literal.read? (style.unsignedChars m e)).isSome = true := by
      intro known
      rw [valueOf_unsigned sign] at known
      cases read : Literal.read? (style.unsignedChars m e) with
      | none =>
        rw [read] at known
        exact absurd rfl known
      | some literal => rfl
    rw [Style.chars_finite] at reads ⊢
    rw [isNumber, String.toList_ofList]
    cases signed : negative && m != 0 with
    | false =>
      rw [signed] at reads
      exact body reads
    | true =>
      rw [signed] at reads
      -- The sign only changes the sign of what is read.
      have known : valueOf (style.unsignedChars m e) ≠ .nan := by
        intro unknown
        refine reads ?_
        change (valueOf (style.unsignedChars m e)).negate = .nan
        rw [unknown]
        rfl
      have rest : (takeSign (style.unsignedChars m e)).2 =
          (takeSign ('-' :: style.unsignedChars m e)).2 := by
        rw [sign]
        rfl
      exact (read?_isSome_of_takeSign rest).symm.trans (body known)

/-- The literal is printed as a finite number by a script, and that number is printed again as it
stands. -/
structure Reprints (literal : String) : Prop where
  finite : (valueOf literal.toList).isFinite = true
  again : scriptStyle.chars (valueOf (scriptStyle.chars (valueOf literal.toList))) =
    scriptStyle.chars (valueOf literal.toList)

instance (literal : String) : Decidable (Reprints literal) :=
  decidable_of_iff ((valueOf literal.toList).isFinite = true ∧
      scriptStyle.chars (valueOf (scriptStyle.chars (valueOf literal.toList))) =
        scriptStyle.chars (valueOf literal.toList))
    ⟨fun both => ⟨both.1, both.2⟩, fun reprints => ⟨reprints.finite, reprints.again⟩⟩

theorem Reprints.isNumber {literal : String} (reprints : Reprints literal) :
    isNumber (String.ofList (scriptStyle.chars (valueOf literal.toList))) = true := by
  refine isNumber_of_reads reprints.finite fun unknown => ?_
  -- Otherwise letters would have been printed.
  have again := reprints.again
  rw [unknown] at again
  have letter : 'N' ∈ scriptStyle.chars (valueOf literal.toList) := by
    rw [← again]
    exact List.mem_cons_self
  exact absurd (Style.isPrinted_chars reprints.finite 'N' letter) (by decide)

end Reprinted

end FootprintTemplate.Number
