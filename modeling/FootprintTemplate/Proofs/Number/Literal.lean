import FootprintTemplate.Number.Literal

/-! Number literals and their texts. A literal that was read spells out its text again, and the
coordinate on the other face is a literal of the same shape. -/
namespace FootprintTemplate.Number

def Exponent.chars (exponent : Exponent) : List Char :=
  exponent.mark :: (exponent.sign.toList ++ exponent.digits)

def fractionChars : Option (List Char) → List Char
  | none => []
  | some digits => '.' :: digits

def exponentText : Option Exponent → List Char
  | none => []
  | some exponent => exponent.chars

def Literal.chars (literal : Literal) : List Char :=
  literal.sign.toList ++ literal.whole ++ fractionChars literal.fraction ++
    exponentText literal.exponent

theorem takeSign_append (chars : List Char) :
    (takeSign chars).1.toList ++ (takeSign chars).2 = chars := by
  unfold takeSign
  split <;> rfl

theorem takeWhole_append (chars : List Char) :
    (takeWhole chars).1 ++ (takeWhole chars).2 = chars := by
  unfold takeWhole
  split
  · rfl
  · split
    · simp
    · rfl
  · rfl

theorem takeFraction_append (chars : List Char) :
    fractionChars (takeFraction chars).1 ++ (takeFraction chars).2 = chars := by
  unfold takeFraction
  split
  · simp [fractionChars]
  · rfl

theorem exponentText_of_read? {chars : List Char} {exponent : Option Exponent}
    (read : readExponent? chars = some exponent) : exponentText exponent = chars := by
  unfold readExponent? at read
  split at read
  · cases Option.some.inj read
    rfl
  · rename_i mark rest
    simp only at read
    split at read
    · cases Option.some.inj read
      simp [exponentText, Exponent.chars, takeSign_append]
    · cases read

theorem Literal.chars_of_read? {chars : List Char} {literal : Literal}
    (read : Literal.read? chars = some literal) : literal.chars = chars := by
  unfold Literal.read? at read
  simp only at read
  split at read
  · cases read
  · obtain ⟨exponent, readExponent, rfl⟩ := Option.map_eq_some_iff.mp read
    simp only [Literal.chars, exponentText_of_read? readExponent, List.append_assoc,
      takeFraction_append, takeWhole_append, takeSign_append]

def isLiteralChar (c : Char) : Bool :=
  isDigit c || ['+', '-', '.', 'e', 'E'].contains c

theorem isDigit_ascii {c : Char} (low : '0' ≤ c) (high : c ≤ '9') : isDigit c = true :=
  List.any_eq_true.mpr ⟨(0x30, 0x39), List.mem_cons_self, Bool.and_eq_true_iff.mpr
    ⟨decide_eq_true low, decide_eq_true high⟩⟩

theorem isLiteralChar_digit {c : Char} (digit : isDigit c = true) : isLiteralChar c = true := by
  simp [isLiteralChar, digit]

theorem isLiteralChar_sign (chars : List Char) :
    ∀ c ∈ (takeSign chars).1.toList, isLiteralChar c = true := by
  unfold takeSign
  split <;> simp [isLiteralChar]

theorem isLiteralChar_takeWhile (chars : List Char) :
    ∀ c ∈ chars.takeWhile isDigit, isLiteralChar c = true := by
  intro c member
  exact isLiteralChar_digit (List.all_eq_true.mp List.all_takeWhile c member)

theorem isLiteralChar_whole (chars : List Char) :
    ∀ c ∈ (takeWhole chars).1, isLiteralChar c = true := by
  unfold takeWhole
  split
  · intro c member
    cases List.mem_singleton.mp member
    exact isLiteralChar_digit (isDigit_ascii (by decide) (by decide))
  · rename_i first rest _
    split
    · rename_i nonzero
      intro c member
      rcases List.mem_cons.mp member with rfl | member
      · have bounds := Bool.and_eq_true_iff.mp nonzero
        have low : '1' ≤ c := of_decide_eq_true bounds.1
        exact isLiteralChar_digit
          (isDigit_ascii (Char.le_trans (by decide) low) (of_decide_eq_true bounds.2))
      · exact isLiteralChar_takeWhile rest c member
    · simp
  · simp

theorem isLiteralChar_fraction (chars : List Char) :
    ∀ c ∈ fractionChars (takeFraction chars).1, isLiteralChar c = true := by
  unfold takeFraction
  split
  · rename_i rest
    intro c member
    rcases List.mem_cons.mp member with rfl | member
    · rfl
    · exact isLiteralChar_takeWhile rest c member
  · simp [fractionChars]

theorem isLiteralChar_exponent {chars : List Char} {exponent : Option Exponent}
    (read : readExponent? chars = some exponent) : ∀ c ∈ chars, isLiteralChar c = true := by
  unfold readExponent? at read
  split at read
  · simp
  · rename_i mark rest
    simp only at read
    split at read
    · rename_i valid
      simp only [Bool.and_eq_true, Bool.or_eq_true, beq_iff_eq, List.all_eq_true] at valid
      intro c member
      rcases List.mem_cons.mp member with rfl | member
      · rcases valid.1.1 with rfl | rfl <;> simp [isLiteralChar]
      · rw [← takeSign_append rest] at member
        rcases List.mem_append.mp member with sign | digit
        · exact isLiteralChar_sign rest c sign
        · exact isLiteralChar_digit (valid.2 c digit)
    · cases read

theorem isLiteralChar_of_isNumber {text : String} (number : isNumber text = true) :
    ∀ c ∈ text.toList, isLiteralChar c = true := by
  obtain ⟨literal, read⟩ := Option.isSome_iff_exists.mp number
  unfold Literal.read? at read
  simp only at read
  split at read
  · cases read
  · obtain ⟨exponent, readExponent, -⟩ := Option.map_eq_some_iff.mp read
    intro c member
    rw [← takeSign_append text.toList, ← takeWhole_append (takeSign text.toList).2,
      ← takeFraction_append (takeWhole (takeSign text.toList).2).2] at member
    simp only [List.mem_append] at member
    rcases member with sign | whole | fraction | rest
    · exact isLiteralChar_sign _ c sign
    · exact isLiteralChar_whole _ c whole
    · exact isLiteralChar_fraction _ c fraction
    · exact isLiteralChar_exponent readExponent c rest

theorem read?_isSome_of_takeSign {first second : List Char}
    (same : (takeSign first).2 = (takeSign second).2) :
    (Literal.read? first).isSome = (Literal.read? second).isSome := by
  unfold Literal.read?
  simp only [same]
  split
  · rfl
  · simp

theorem takeSign_rest_of_read? {sign : Char} {rest : List Char} (signed : sign = '+' ∨ sign = '-')
    (number : (Literal.read? (sign :: rest)).isSome = true) : takeSign rest = (none, rest) := by
  have unsigned : (takeSign (sign :: rest)).2 = rest := by rcases signed with rfl | rfl <;> rfl
  unfold takeSign
  split
  · simp [Literal.read?, unsigned, takeWhole, takeFraction] at number
  · simp [Literal.read?, unsigned, takeWhole, takeFraction] at number
  · rfl

section Mirror

theorem mirrorChars_unsigned {chars : List Char} (unsigned : takeSign chars = (none, chars)) :
    mirrorChars chars = '-' :: chars := by
  unfold mirrorChars
  split
  · cases unsigned
  · rfl

theorem minus_or_unsigned {chars : List Char} (number : (Literal.read? chars).isSome = true)
    (noPlus : chars.head? ≠ some '+') :
    (∃ rest, chars = '-' :: rest ∧ takeSign rest = (none, rest)) ∨
      takeSign chars = (none, chars) := by
  by_cases minus : chars.head? = some '-'
  · obtain ⟨rest, rfl⟩ := List.head?_eq_some_iff.mp minus
    exact .inl ⟨rest, rfl, takeSign_rest_of_read? (.inr rfl) number⟩
  · right
    unfold takeSign
    split
    · exact absurd rfl noPlus
    · exact absurd rfl minus
    · rfl

variable {text : String} (number : isNumber text = true) (noPlus : text.toList.head? ≠ some '+')
include number noPlus

theorem isNumber_mirror : isNumber (mirror text) = true := by
  rw [isNumber, mirror, String.toList_ofList]
  rcases minus_or_unsigned number noPlus with ⟨rest, shape, unsigned⟩ | unsigned
  · rw [isNumber, shape] at number
    have same : (takeSign rest).2 = (takeSign ('-' :: rest)).2 := by rw [unsigned]; rfl
    rw [shape]
    exact (read?_isSome_of_takeSign same).trans number
  · have same : (takeSign ('-' :: text.toList)).2 = (takeSign text.toList).2 :=
      (congrArg Prod.snd unsigned).symm
    rw [mirrorChars_unsigned unsigned]
    exact (read?_isSome_of_takeSign same).trans number

theorem mirrorChars_mirror : mirrorChars (mirror text).toList = text.toList := by
  rw [mirror, String.toList_ofList]
  rcases minus_or_unsigned number noPlus with ⟨rest, shape, unsigned⟩ | unsigned
  · rw [shape]
    exact mirrorChars_unsigned unsigned
  · rw [mirrorChars_unsigned unsigned]
    rfl

theorem isPlainZero_mirror : isPlainZero (mirror text) = isPlainZero text := by
  rw [isPlainZero, isPlainZero, mirror, String.toList_ofList]
  rcases minus_or_unsigned number noPlus with ⟨rest, shape, unsigned⟩ | unsigned
  · rw [shape]
    simp only [mirrorChars]
    split
    · cases unsigned
    · rfl
  · rw [mirrorChars_unsigned unsigned]
    simp only
    split
    · rename_i shape
      rw [shape] at unsigned
      cases unsigned
    · rfl

end Mirror

end FootprintTemplate.Number
