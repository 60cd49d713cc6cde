import FootprintTemplate.Text.Units

/-! Texts as units. The units of a text lead back to it. -/
namespace FootprintTemplate.Text

theorem unitsOfChars_cons (c : Char) (rest : List Char) :
    unitsOfChars (c :: rest) = unitsOfPoint c.toNat ++ unitsOfChars rest := rfl

theorem unitsOfChars_append (first second : List Char) :
    unitsOfChars (first ++ second) = unitsOfChars first ++ unitsOfChars second :=
  List.flatMap_append

theorem toNat_toUInt16 {n : Nat} (small : n < 0x10000) : n.toUInt16.toNat = n :=
  UInt16.toNat_ofNat_of_lt' small

theorem points_pair {n : Nat} (large : 0x10000 ≤ n) (small : n < 0x110000) (rest : Units) :
    points ((0xD800 + (n - 0x10000) / 0x400).toUInt16 :: (0xDC00 + n % 0x400).toUInt16 :: rest) =
      n :: points rest := by
  have first : 0xD800 + (n - 0x10000) / 0x400 < 0xDC00 := by omega
  have second : 0xDC00 + n % 0x400 < 0xE000 := by omega
  have ofHigh := toNat_toUInt16 (Nat.lt_trans first (by decide))
  have ofLow := toNat_toUInt16 (Nat.lt_trans second (by decide))
  generalize (0xD800 + (n - 0x10000) / 0x400).toUInt16 = high at ofHigh ⊢
  generalize (0xDC00 + n % 0x400).toUInt16 = low at ofLow ⊢
  have isHigh : isHighSurrogate high = true := by
    simp only [isHighSurrogate, Bool.and_eq_true, decide_eq_true_iff,
      UInt16.le_iff_toNat_le, UInt16.lt_iff_toNat_lt, UInt16.reduceToNat, ofHigh]
    exact ⟨Nat.le_add_right _ _, first⟩
  have isLow : isLowSurrogate low = true := by
    simp only [isLowSurrogate, Bool.and_eq_true, decide_eq_true_iff,
      UInt16.le_iff_toNat_le, UInt16.lt_iff_toNat_lt, UInt16.reduceToNat, ofLow]
    exact ⟨Nat.le_add_right _ _, second⟩
  have pair : pairedPoint high low = n := by
    unfold pairedPoint
    omega
  rw [points, isHigh, isLow, pair]
  rfl

theorem points_unitsOfChars (chars : List Char) :
    points (unitsOfChars chars) = chars.map Char.toNat := by
  induction chars with
  | nil => rfl
  | cons c rest ih =>
    rw [unitsOfChars_cons, List.map_cons, ← ih, unitsOfPoint]
    have valid : c.toNat < 0xD800 ∨ 0xDFFF < c.toNat ∧ c.toNat < 0x110000 := c.valid
    split
    · rename_i small
      have own := toNat_toUInt16 small
      have alone : isHighSurrogate c.toNat.toUInt16 = false := by
        simp only [isHighSurrogate, Bool.and_eq_false_iff, decide_eq_false_iff_not,
          UInt16.le_iff_toNat_le, UInt16.lt_iff_toNat_lt, UInt16.reduceToNat, own]
        omega
      generalize c.toNat.toUInt16 = unit at own alone
      cases unitsOfChars rest <;> simp [points, alone, own]
    · rename_i large
      exact points_pair (Nat.le_of_not_lt large) (by omega) _

theorem isLonePoint_toNat (c : Char) : isLonePoint c.toNat = false := by
  have valid : c.toNat < 0xD800 ∨ 0xDFFF < c.toNat ∧ c.toNat < 0x110000 := c.valid
  rw [isLonePoint, Bool.and_eq_false_iff, decide_eq_false_iff_not, decide_eq_false_iff_not]
  omega

theorem points_units (text : String) : points (units text) = text.toList.map Char.toNat :=
  points_unitsOfChars _

theorem ofUnits?_units (text : String) : ofUnits? (units text) = some text := by
  have same : (text.toList.map Char.toNat).map Char.ofNat = text.toList := by
    rw [List.map_map, show Char.ofNat ∘ Char.toNat = id from funext Char.ofNat_toNat, List.map_id]
  have paired : (text.toList.map Char.toNat).any isLonePoint = false := by
    rw [List.any_map, List.any_eq_false]
    exact fun c _ => Bool.not_eq_true _ ▸ isLonePoint_toNat c
  rw [ofUnits?, points_units]
  simp only [paired, same, Bool.false_eq_true, if_false, String.ofList_toList]

theorem ofUnits_units (text : String) : ofUnits (units text) = text := by
  have same (c : Char) :
      (if isLonePoint c.toNat then '\ufffd' else Char.ofNat c.toNat) = c := by
    rw [isLonePoint_toNat, if_neg Bool.false_ne_true, Char.ofNat_toNat]
  rw [ofUnits, points_units, List.map_map, Function.comp_def, funext same, List.map_id',
    String.ofList_toList]

theorem units_injective : Function.Injective units := by
  intro one other same
  have text := congrArg ofUnits? same
  rw [ofUnits?_units, ofUnits?_units] at text
  exact Option.some.inj text

theorem units_append (first second : String) :
    units (first ++ second) = units first ++ units second := by
  rw [units, String.toList_append, unitsOfChars_append, units, units]

end FootprintTemplate.Text
