import FootprintTemplate.Number.Arithmetic
import FootprintTemplate.Number.Shortest
import FootprintTemplate.Proofs.Sexpr.Lexeme

/-! Printed numbers. A finite number is printed in ASCII digits and a few marks, and in any style a
number is one bare atom, however few digits are found for it. -/
namespace FootprintTemplate.Number

open Sexpr (IsBare isBlank isDelimiter)

/-- Characters of finite numbers that are printed. -/
def isPrintedChar (c : Char) : Bool :=
  c.isDigit || ['+', '-', '.', 'e'].contains c

def IsPrinted (chars : List Char) : Prop :=
  ∀ c ∈ chars, isPrintedChar c = true

theorem isPrintedChar_digit {c : Char} (digit : c.isDigit = true) : isPrintedChar c = true := by
  rw [isPrintedChar, digit, Bool.true_or]

theorem IsPrinted.append {first second : List Char} :
    IsPrinted (first ++ second) ↔ IsPrinted first ∧ IsPrinted second :=
  List.forall_mem_append

theorem IsPrinted.cons {c : Char} {rest : List Char} :
    IsPrinted (c :: rest) ↔ isPrintedChar c = true ∧ IsPrinted rest :=
  List.forall_mem_cons

theorem IsPrinted.of_subset {first second : List Char} (subset : first ⊆ second)
    (printed : IsPrinted second) : IsPrinted first :=
  fun c member => printed c (subset member)

theorem isDelimiter_of_isPrintedChar {c : Char} (printed : isPrintedChar c = true) :
    isDelimiter c = false := by
  cases ends : isDelimiter c with
  | false => rfl
  | true =>
    simp only [isDelimiter, isBlank, Bool.or_eq_true, beq_iff_eq] at ends
    rcases ends with (((rfl | rfl) | rfl) | rfl) | ((rfl | rfl) | rfl) | rfl <;> contradiction

theorem toNat_lt_of_isPrintedChar {c : Char} (printed : isPrintedChar c = true) :
    c.toNat < 128 := by
  simp only [isPrintedChar, Bool.or_eq_true, List.contains_iff_mem, List.mem_cons, List.not_mem_nil,
    or_false] at printed
  rcases printed with digit | rfl | rfl | rfl | rfl
  · simp only [Char.isDigit, Bool.and_eq_true, decide_eq_true_eq] at digit
    have high : c.val ≤ '9'.val := digit.2
    exact Nat.lt_of_le_of_lt (UInt32.le_iff_toNat_le.mp high) (by decide)
  all_goals decide

theorem IsPrinted.isBare {chars : List Char} (printed : IsPrinted chars) (nonempty : chars ≠ []) :
    IsBare chars :=
  ⟨nonempty, fun c member => isDelimiter_of_isPrintedChar (printed c member)⟩

theorem isPrinted_toDigits (n : Nat) : IsPrinted (Nat.toDigits 10 n) :=
  fun _ member => isPrintedChar_digit
    (Nat.isDigit_of_mem_toDigits (by decide) (by decide) member)

section Digits

variable {digits : List Char}

/-- Digits come first in a printed number, after its sign. -/
def AreDigits (digits : List Char) : Prop :=
  ∀ c ∈ digits, c.isDigit = true

theorem areDigits_zeros (n : Nat) : AreDigits (zeros n) := by
  intro c member
  cases (List.mem_replicate.mp member).2
  rfl

theorem areDigits_digits (d : Decimal) : AreDigits d.digits.1 := by
  intro c member
  have inside : c ∈ Nat.toDigits 10 d.count :=
    List.mem_reverse.mp ((List.dropWhile_sublist _).subset (List.mem_reverse.mp member))
  exact Nat.isDigit_of_mem_toDigits (by decide) (by decide) inside

theorem AreDigits.isPrinted (areDigits : AreDigits digits) : IsPrinted digits :=
  fun c member => isPrintedChar_digit (areDigits c member)

theorem isPrinted_withPoint (areDigits : AreDigits digits) (place : Int) :
    IsPrinted (withPoint digits place) := by
  have printed := areDigits.isPrinted
  unfold withPoint
  split
  · exact IsPrinted.cons.mpr ⟨rfl, IsPrinted.cons.mpr
      ⟨rfl, IsPrinted.append.mpr ⟨(areDigits_zeros _).isPrinted, printed⟩⟩⟩
  · split
    · exact IsPrinted.append.mpr ⟨printed, (areDigits_zeros _).isPrinted⟩
    · exact IsPrinted.append.mpr ⟨printed.of_subset (List.take_subset _ _),
        IsPrinted.cons.mpr ⟨rfl, printed.of_subset (List.drop_subset _ _)⟩⟩

theorem withPoint_ne_nil (digits : List Char) (place : Int) : withPoint digits place ≠ [] := by
  unfold withPoint
  split
  · exact List.cons_ne_nil _ _
  · rename_i positive
    split
    · rename_i short
      intro empty
      -- Without digits there is still the zero before the point.
      have length := congrArg List.length empty
      simp only [zeros, List.length_append, List.length_replicate, List.length_nil] at length
      omega
    · simp

theorem isPrinted_withExponent (areDigits : AreDigits digits) (place : Int) :
    IsPrinted (withExponent digits place) := by
  have printed := areDigits.isPrinted
  have fraction : IsPrinted (if digits.length ≤ 1 then [] else '.' :: digits.drop 1) := by
    split
    · exact fun _ member => absurd member List.not_mem_nil
    · exact IsPrinted.cons.mpr ⟨rfl, printed.of_subset (List.drop_subset _ _)⟩
  have sign : isPrintedChar (if place - 1 < 0 then '-' else '+') = true := by split <;> rfl
  exact IsPrinted.append.mpr ⟨IsPrinted.append.mpr
    ⟨printed.of_subset (List.take_subset _ _), fraction⟩,
    IsPrinted.cons.mpr ⟨rfl, IsPrinted.cons.mpr ⟨sign, isPrinted_toDigits _⟩⟩⟩

end Digits

section Styles

variable {style : Style}

/-- The text of a finite number without its sign. -/
def Style.unsignedChars (style : Style) (m : Nat) (e : Int) : List Char :=
  if m == 0 then ['0']
  else
    let (digits, place) := (Shortest.decimal style.tieToEven m e).digits
    if style.positional place then withPoint digits place else withExponent digits place

theorem Style.chars_finite (negative : Bool) (m : Nat) (e : Int) :
    style.chars (.finite negative m e) =
      (if negative && m != 0 then ['-'] else []) ++ style.unsignedChars m e := by
  by_cases zero : m = 0
  · simp [chars, unsignedChars, zero]
  · simp [chars, unsignedChars, zero]

theorem Style.isPrinted_unsignedChars (m : Nat) (e : Int) :
    IsPrinted (style.unsignedChars m e) := by
  simp only [unsignedChars]
  split
  · exact IsPrinted.cons.mpr ⟨rfl, fun _ member => absurd member List.not_mem_nil⟩
  · split
    · exact isPrinted_withPoint (areDigits_digits _) _
    · exact isPrinted_withExponent (areDigits_digits _) _

theorem Style.unsignedChars_ne_nil (m : Nat) (e : Int) : style.unsignedChars m e ≠ [] := by
  simp only [unsignedChars]
  split
  · exact List.cons_ne_nil _ _
  · split
    · exact withPoint_ne_nil _ _
    · simp [withExponent]

theorem Style.isPrinted_chars {value : Double} (finite : value.isFinite = true) :
    IsPrinted (style.chars value) := by
  cases value with
  | nan => cases finite
  | infinity => cases finite
  | finite negative m e =>
    rw [chars_finite]
    refine IsPrinted.append.mpr ⟨?_, isPrinted_unsignedChars m e⟩
    split
    · exact IsPrinted.cons.mpr ⟨rfl, fun _ member => absurd member List.not_mem_nil⟩
    · exact fun _ member => absurd member List.not_mem_nil

theorem Style.isBare_chars (infinity : IsBare style.infinity.toList) (value : Double) :
    IsBare (style.chars value) := by
  cases value with
  | nan => exact (by decide : IsBare "NaN".toList)
  | infinity negative =>
    cases negative with
    | false => exact infinity
    | true => exact ⟨List.cons_ne_nil _ _, List.forall_mem_cons.mpr ⟨rfl, infinity.2⟩⟩
  | finite negative m e =>
    refine (isPrinted_chars rfl).isBare ?_
    rw [chars_finite]
    exact List.append_ne_nil_of_right_ne_nil _ (unsignedChars_ne_nil m e)

theorem isBare_scriptStyle (value : Double) : IsBare (scriptStyle.chars value) :=
  Style.isBare_chars (by decide) value

theorem isBare_placementStyle (value : Double) : IsBare (placementStyle.chars value) :=
  Style.isBare_chars (by decide) value

end Styles

end FootprintTemplate.Number
