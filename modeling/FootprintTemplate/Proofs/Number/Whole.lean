import FootprintTemplate.Number.Arithmetic
import FootprintTemplate.Number.Read

/-! Whole numbers of 64 bits. A whole number that fits is kept as it is by rounding, so that sums and
remainders of whole numbers are the ones of arithmetic. -/
namespace FootprintTemplate.Number

namespace Double

section Shifts

theorem log2_shiftLeft {n : Nat} (nonzero : n ≠ 0) (k : Nat) : (n <<< k).log2 = n.log2 + k := by
  induction k with
  | zero => rfl
  | succ k ih =>
    have inner : n <<< k ≠ 0 := by
      rw [Nat.shiftLeft_eq]
      exact Nat.mul_ne_zero nonzero (Nat.ne_of_gt (Nat.pow_pos (by decide)))
    rw [Nat.shiftLeft_succ, Nat.log2_two_mul inner, ih]
    omega

theorem shiftLeft_pos {n : Nat} (positive : 0 < n) (k : Nat) : 0 < n <<< k := by
  rw [Nat.shiftLeft_eq]
  exact Nat.mul_pos positive (Nat.pow_pos (by decide))

theorem shiftLeft_div_shiftLeft (n d k : Nat) : (n <<< k) / (d <<< k) = n / d := by
  rw [Nat.shiftLeft_eq, Nat.shiftLeft_eq]
  exact Nat.mul_div_mul_right n d (Nat.pow_pos (by decide))

theorem shiftLeft_mod_shiftLeft (n d k : Nat) : (n <<< k) % (d <<< k) = (n % d) <<< k := by
  rw [Nat.shiftLeft_eq, Nat.shiftLeft_eq, Nat.shiftLeft_eq]
  exact Nat.mul_mod_mul_right _ n d

theorem roundDiv_shiftLeft (n d k : Nat) : roundDiv (n <<< k) (d <<< k) = roundDiv n d := by
  have positive : 0 < 2 ^ k := Nat.pow_pos (by decide)
  have twice : 2 * (n % d) <<< k = (2 * (n % d)) <<< k := by
    rw [Nat.shiftLeft_eq, Nat.shiftLeft_eq, Nat.mul_assoc]
  have below : (2 * (n % d)) <<< k < d <<< k ↔ 2 * (n % d) < d := by
    rw [Nat.shiftLeft_eq, Nat.shiftLeft_eq]
    exact Nat.mul_lt_mul_right positive
  have even : (2 * (n % d)) <<< k = d <<< k ↔ 2 * (n % d) = d := by
    rw [Nat.shiftLeft_eq, Nat.shiftLeft_eq]
    exact Nat.mul_left_inj (by omega)
  simp only [roundDiv, shiftLeft_div_shiftLeft, shiftLeft_mod_shiftLeft, twice, below]
  by_cases tie : 2 * (n % d) = d
  · simp [tie]
  · have other : ¬(2 * (n % d)) <<< k = d <<< k := mt even.mp tie
    simp [tie, other]

theorem roundDiv_exact (n : Nat) {d : Nat} (positive : 0 < d) : roundDiv (n * d) d = n := by
  simp [roundDiv, positive, Nat.mul_div_cancel n positive]

end Shifts

section Ratios

variable {negative : Bool} {n : Nat}

theorem inUnits_shiftLeft (n d k : Nat) (e : Int) :
    inUnits (n <<< k) (d <<< k) e = ((inUnits n d e).1 <<< k, (inUnits n d e).2 <<< k) := by
  have commute (a b : Nat) : n <<< a <<< b = n <<< b <<< a := by
    rw [← Nat.shiftLeft_add, ← Nat.shiftLeft_add, Nat.add_comm]
  have commute' (a b : Nat) : d <<< a <<< b = d <<< b <<< a := by
    rw [← Nat.shiftLeft_add, ← Nat.shiftLeft_add, Nat.add_comm]
  rw [inUnits, inUnits, commute k, commute' k]

/-- Only the quotient decides what it is rounded to, as far as powers of two go. -/
theorem ofRatio_shiftLeft (negative : Bool) (n k : Nat) :
    ofRatio negative (n <<< k) (1 <<< k) = ofRatio negative n 1 := by
  by_cases zero : n = 0
  · subst zero
    rw [Nat.zero_shiftLeft]
    rfl
  have nonzero : n <<< k ≠ 0 := Nat.ne_of_gt (shiftLeft_pos (Nat.pos_of_ne_zero zero) k)
  have top : (n <<< k).log2 = n.log2 + k := log2_shiftLeft zero k
  have unit : (1 <<< k).log2 = k := by
    rw [log2_shiftLeft (by decide)]
    exact Nat.zero_add k
  have guess : ((n <<< k).log2 : Int) - (1 <<< k).log2 - precision =
      (n.log2 : Int) - Nat.log2 1 - precision := by
    rw [top, unit, show Nat.log2 1 = 0 from rfl]
    omega
  have exponent : unitExponent (n <<< k) (1 <<< k) = unitExponent n 1 := by
    simp only [unitExponent, guess, inUnits_shiftLeft, shiftLeft_div_shiftLeft]
  simp only [ofRatio, exponent, inUnits_shiftLeft, roundDiv_shiftLeft, beq_eq_false_iff_ne.mpr zero,
    beq_eq_false_iff_ne.mpr nonzero]

/-- The magnitude of a finite number with this sign is the natural number. -/
def IsNatural (negative : Bool) (n : Nat) (value : Double) : Prop :=
  ∃ m e, value = .finite negative m e ∧ m <<< e.toNat = n <<< (-e).toNat

/-- Numbers that there are: their mantissa and their exponent are in range. -/
def InRange : Double → Prop
  | .finite _ m e => m < 1 <<< precision ∧ minExponent ≤ e ∧ e ≤ maxExponent
  | _ => True

theorem inUnits_lt {n d : Nat} {e : Int}
    (above : (n.log2 : Int) - d.log2 - precision < e) (positive : 0 < d) :
    (inUnits n d e).1 / (inUnits n d e).2 < 1 <<< precision := by
  have top : n < 2 ^ (n.log2 + 1) := Nat.lt_log2_self
  have low : 2 ^ d.log2 ≤ d := Nat.log2_self_le (Nat.ne_of_gt positive)
  have divisor : 0 < (inUnits n d e).2 := shiftLeft_pos positive _
  rw [Nat.div_lt_iff_lt_mul divisor]
  simp only [inUnits, Nat.shiftLeft_eq, precision, Nat.one_mul] at above ⊢
  calc n * 2 ^ (-e).toNat < 2 ^ (n.log2 + 1) * 2 ^ (-e).toNat :=
        (Nat.mul_lt_mul_right (Nat.pow_pos (by decide))).mpr top
    _ = 2 ^ (n.log2 + 1 + (-e).toNat) := (Nat.pow_add 2 _ _).symm
    _ ≤ 2 ^ (53 + (d.log2 + e.toNat)) := Nat.pow_le_pow_right (by decide) (by omega)
    _ = 2 ^ 53 * (2 ^ d.log2 * 2 ^ e.toNat) := by rw [Nat.pow_add, Nat.pow_add]
    _ ≤ 2 ^ 53 * (d * 2 ^ e.toNat) :=
        Nat.mul_le_mul_left _ (Nat.mul_le_mul_right _ low)

theorem inUnits_unitExponent_lt {n d : Nat} (positive : 0 < d) :
    (inUnits n d (unitExponent n d)).1 / (inUnits n d (unitExponent n d)).2 < 1 <<< precision := by
  by_cases above : (n.log2 : Int) - d.log2 - precision < unitExponent n d
  · exact inUnits_lt above positive
  · -- The exponent is the guess itself, which has been tried.
    have fits : (inUnits n d ((n.log2 : Int) - d.log2 - precision)).1 /
        (inUnits n d ((n.log2 : Int) - d.log2 - precision)).2 < 1 <<< precision ∧
          unitExponent n d = (n.log2 : Int) - d.log2 - precision := by
      simp only [unitExponent] at above ⊢
      split at above
      · rename_i tried
        rw [if_pos tried]
        exact ⟨tried, by omega⟩
      · omega
    rw [fits.2]
    exact fits.1

/-- The mantissa that a quotient is rounded to. -/
def mantissa (n d : Nat) : Nat :=
  roundDiv (inUnits n d (unitExponent n d)).1 (inUnits n d (unitExponent n d)).2

theorem mantissa_le {n d : Nat} (positive : 0 < d) : mantissa n d ≤ 1 <<< precision := by
  have small := inUnits_unitExponent_lt (n := n) positive
  simp only [mantissa, roundDiv]
  split <;> omega

theorem ofRatio_nonzero (negative : Bool) {n : Nat} (d : Nat) (nonzero : n ≠ 0) :
    ofRatio negative n d =
      if mantissa n d = 1 <<< precision then
        if maxExponent < unitExponent n d + 1 then .infinity negative
        else .finite negative (mantissa n d / 2) (unitExponent n d + 1)
      else if maxExponent < unitExponent n d then .infinity negative
      else .finite negative (mantissa n d) (unitExponent n d) := by
  have other : (n == 0) = false := beq_eq_false_iff_ne.mpr nonzero
  have own : roundDiv (inUnits n d (unitExponent n d)).1 (inUnits n d (unitExponent n d)).2 =
      mantissa n d := rfl
  simp only [ofRatio, other, own, Bool.false_eq_true, if_false, beq_iff_eq]
  by_cases carried : mantissa n d = 1 <<< precision
  · simp only [carried, if_true]
  · simp only [carried, if_false]

theorem inRange_zero (negative : Bool) : InRange (zero negative) := by
  refine ⟨by decide, ?_, ?_⟩ <;> decide

theorem inRange_ofRatio (negative : Bool) (n : Nat) {d : Nat} (positive : 0 < d) :
    InRange (ofRatio negative n d) := by
  by_cases nonzero : n = 0
  · rw [nonzero]
    exact inRange_zero negative
  have low : minExponent ≤ unitExponent n d := Int.le_max_right _ _
  have small : mantissa n d ≤ 1 <<< precision := mantissa_le positive
  rw [ofRatio_nonzero negative d nonzero]
  split
  · rename_i carried
    split
    · trivial
    · rw [carried]
      exact ⟨by decide, by omega, by omega⟩
  · split
    · trivial
    · exact ⟨by omega, low, by omega⟩

theorem inRange_ofDecimal (negative : Bool) (digits : Nat) (e : Int) :
    InRange (ofDecimal negative digits e) := by
  unfold ofDecimal
  dsimp only
  split
  · exact inRange_zero negative
  split
  · trivial
  split
  · exact inRange_zero negative
  · exact inRange_ofRatio negative _ (Nat.pow_pos (by decide))

theorem inRange_negate {value : Double} (range : InRange value) : InRange value.negate := by
  cases value <;> exact range

theorem mantissa_whole {m e : Nat} (positive : 0 < m) (small : m < 1 <<< precision) :
    unitExponent (m <<< e) 1 ≤ e ∧
      mantissa (m <<< e) 1 <<< (unitExponent (m <<< e) 1).toNat =
        (m <<< e) <<< (-unitExponent (m <<< e) 1).toNat := by
  have nonzero : m ≠ 0 := Nat.ne_of_gt positive
  have below : m.log2 < precision := by
    rw [Nat.log2_lt nonzero]
    rwa [Nat.one_shiftLeft] at small
  have top : (m <<< e).log2 = m.log2 + e := log2_shiftLeft nonzero e
  have fits : unitExponent (m <<< e) 1 ≤ e := by
    have unit : Nat.log2 1 = 0 := rfl
    simp only [unitExponent, top, unit, minExponent, precision] at below ⊢
    split <;> omega
  refine ⟨fits, ?_⟩
  unfold mantissa inUnits
  generalize unitExponent (m <<< e) 1 = unit at fits
  by_cases small : unit ≤ 0
  · have none : unit.toNat = 0 := Int.toNat_of_nonpos small
    have exact := roundDiv_exact ((m <<< e) <<< (-unit).toNat) Nat.one_pos
    rw [none, Nat.shiftLeft_zero, Nat.shiftLeft_zero]
    rwa [Nat.mul_one] at exact
  · have none : (-unit).toNat = 0 := Int.toNat_of_nonpos (by omega)
    have split : m <<< e = (m <<< (e - unit.toNat)) <<< unit.toNat := by
      rw [← Nat.shiftLeft_add]
      congr 1
      omega
    have exact := roundDiv_exact (m <<< (e - unit.toNat)) Nat.one_pos
    rw [Nat.mul_one] at exact
    rw [none, Nat.shiftLeft_zero, split, roundDiv_shiftLeft, exact]

theorem isNatural_ofRatio (negative : Bool) {m e : Nat} (small : m < 1 <<< precision)
    (fits : (e : Int) ≤ maxExponent) : IsNatural negative (m <<< e) (ofRatio negative (m <<< e) 1) := by
  by_cases zero : m = 0
  · rw [zero, Nat.zero_shiftLeft]
    exact ⟨0, minExponent, rfl, by rw [Nat.zero_shiftLeft, Nat.zero_shiftLeft]⟩
  have positive := Nat.pos_of_ne_zero zero
  have nonzero : m <<< e ≠ 0 := Nat.ne_of_gt (shiftLeft_pos positive e)
  obtain ⟨below, whole⟩ := mantissa_whole (e := e) positive small
  rw [ofRatio_nonzero negative 1 nonzero]
  generalize unitExponent (m <<< e) 1 = unit at below whole
  generalize mantissa (m <<< e) 1 = rounded at whole
  split
  · rename_i carried
    subst carried
    -- A mantissa that is carried is even, and there is a unit above its own.
    have room : unit + 1 ≤ e := by
      by_cases last : unit = e
      · subst last
        have none : (-(e : Int)).toNat = 0 := Int.toNat_of_nonpos (by omega)
        rw [Int.toNat_natCast, none, Nat.shiftLeft_zero] at whole
        have same := congrArg (· / 2 ^ e) whole
        simp only [Nat.shiftLeft_eq, Nat.mul_div_cancel _ (Nat.pow_pos (Nat.zero_lt_two))] at same
        omega
      · omega
    rw [if_neg (by omega)]
    refine ⟨_, _, rfl, ?_⟩
    by_cases sign : 0 ≤ unit
    · obtain ⟨k, rfl⟩ := Int.eq_ofNat_of_zero_le sign
      have none : (-(k : Int)).toNat = 0 := Int.toNat_of_nonpos (by omega)
      have none' : (-((k : Int) + 1)).toNat = 0 := Int.toNat_of_nonpos (by omega)
      rw [Int.toNat_natCast, none, Nat.shiftLeft_zero] at whole
      rw [none', Nat.shiftLeft_zero, ← whole, Int.toNat_natCast_add_one, Nat.shiftLeft_succ_inside]
      rfl
    · obtain ⟨k, rfl⟩ : ∃ k : Nat, unit = -((k : Int) + 1) := ⟨(-unit - 1).toNat, by omega⟩
      have none : (-((k : Int) + 1)).toNat = 0 := Int.toNat_of_nonpos (by omega)
      have none' : (-((k : Int) + 1) + 1).toNat = 0 := Int.toNat_of_nonpos (by omega)
      have one : (- -((k : Int) + 1)).toNat = k + 1 := by omega
      have own : (-(-((k : Int) + 1) + 1)).toNat = k := by omega
      rw [none, one, Nat.shiftLeft_zero, Nat.shiftLeft_succ] at whole
      rw [none', own, Nat.shiftLeft_zero, whole]
      omega
  · rw [if_neg (by omega)]
    exact ⟨_, _, rfl, whole⟩

end Ratios

section Operations

variable {negative : Bool} {n : Nat} {value : Double}

theorem aligned_whole {m : Nat} {e base : Int} (whole : m <<< e.toNat = n <<< (-e).toNat)
    (fine : base ≤ e) (low : base ≤ 0) : m <<< (e - base).toNat = n <<< (-base).toNat := by
  by_cases sign : 0 ≤ e
  · have none : (-e).toNat = 0 := Int.toNat_of_nonpos (by omega)
    have split : (e - base).toNat = e.toNat + (-base).toNat := by omega
    rw [none, Nat.shiftLeft_zero] at whole
    rw [split, Nat.shiftLeft_add, whole]
  · have none : e.toNat = 0 := Int.toNat_of_nonpos (by omega)
    have split : (-base).toNat = (-e).toNat + (e - base).toNat := by omega
    rw [none, Nat.shiftLeft_zero] at whole
    rw [split, Nat.shiftLeft_add, whole]

theorem whole_bits (k bits : Nat) :
    (k <<< bits) <<< (-(bits : Int)).toNat = k <<< (- -(bits : Int)).toNat := by
  have none : (-(bits : Int)).toNat = 0 := Int.toNat_of_nonpos (by omega)
  rw [none, Int.neg_neg, Int.toNat_natCast, Nat.shiftLeft_zero]

theorem ofShifted_whole (negative : Bool) (n : Nat) {base : Int} (low : base ≤ 0) :
    ofShifted negative (n <<< (-base).toNat) base = ofRatio negative n 1 := by
  have none : base.toNat = 0 := Int.toNat_of_nonpos low
  simp only [ofShifted, shifted, none, Nat.shiftLeft_zero]
  exact ofRatio_shiftLeft negative n _

theorem isNatural_of_isWhole (whole : value.isWhole = true) :
    ∃ negative n, IsNatural negative n value := by
  cases value with
  | nan => cases whole
  | infinity => cases whole
  | finite negative m e =>
    simp only [isWhole, Bool.or_eq_true, decide_eq_true_eq, beq_iff_eq] at whole
    by_cases sign : 0 ≤ e
    · have none : (-e).toNat = 0 := Int.toNat_of_nonpos (by omega)
      exact ⟨negative, m <<< e.toNat, m, e, rfl, by rw [none, Nat.shiftLeft_zero]⟩
    · have none : e.toNat = 0 := Int.toNat_of_nonpos (by omega)
      have divides := Nat.div_mul_cancel (Nat.dvd_of_mod_eq_zero (whole.resolve_left sign))
      refine ⟨negative, m / 1 <<< (-e).toNat, m, e, rfl, ?_⟩
      rw [none, Nat.shiftLeft_zero, Nat.shiftLeft_eq _ (-e).toNat]
      rw [Nat.one_shiftLeft] at divides ⊢
      exact divides.symm

theorem IsNatural.ofRatio (natural : IsNatural negative n value) (range : InRange value)
    (sign : Bool) : IsNatural sign n (ofRatio sign n 1) := by
  obtain ⟨m, e, rfl, whole⟩ := natural
  obtain ⟨small, -, high⟩ := range
  by_cases positive : 0 ≤ e
  · have none : (-e).toNat = 0 := Int.toNat_of_nonpos (by omega)
    rw [none, Nat.shiftLeft_zero] at whole
    rw [← whole]
    exact isNatural_ofRatio sign small (by omega)
  · have none : e.toNat = 0 := Int.toNat_of_nonpos (by omega)
    rw [none, Nat.shiftLeft_zero] at whole
    have below : n ≤ n <<< (-e).toNat := by
      rw [Nat.shiftLeft_eq]
      exact Nat.le_mul_of_pos_right n (Nat.pow_pos Nat.zero_lt_two)
    have fits : ((0 : Nat) : Int) ≤ maxExponent := by decide
    exact isNatural_ofRatio sign (e := 0) (by omega) fits

theorem zero_add_finite (sign : Bool) {m : Nat} {e : Int} (low : minExponent ≤ e) :
    (zero sign).add (.finite negative m e) =
      if m <<< (e - minExponent).toNat = 0 then zero (sign && negative)
      else ofShifted negative (m <<< (e - minExponent).toNat) minExponent := by
  have base : min minExponent e = minExponent := Int.min_eq_left low
  simp only [zero, add, base, aligned]
  generalize m <<< (e - minExponent).toNat = scaled
  cases negative with
  | false =>
    have positive : ¬((scaled : Int) < 0) := by omega
    simp [positive]
  | true =>
    by_cases empty : scaled = 0
    · simp [empty]
    · have positive : 0 < scaled := Nat.pos_of_ne_zero empty
      simp [positive, empty]

/-- A whole number added to zero stays what it is, up to the sign of zero. -/
theorem zero_add_whole (sign : Bool) (natural : IsNatural negative n value)
    (range : InRange value) :
    (zero sign).add value = ofRatio (negative && (sign || n != 0)) n 1 := by
  obtain ⟨m, e, rfl, whole⟩ := natural
  obtain ⟨-, low, -⟩ := range
  have same : m <<< (e - minExponent).toNat = n <<< (-minExponent).toNat :=
    aligned_whole whole low (by decide)
  rw [zero_add_finite sign low, same, ofShifted_whole negative n (by decide)]
  by_cases empty : n = 0
  · subst empty
    rw [if_pos (Nat.zero_shiftLeft _), bne_self_eq_false, Bool.or_false, Bool.and_comm]
    rfl
  · have other : (n != 0) = true := bne_iff_ne.mpr empty
    rw [if_neg (Nat.ne_of_gt (shiftLeft_pos (Nat.pos_of_ne_zero empty) _)), other, Bool.or_true,
      Bool.and_true]

/-- What is below a whole number in size leaves no sign when it is added to it. The whole number has
all the bits of its fraction. -/
theorem add_whole (natural : IsNatural negative n value) {k : Nat} (below : n < k) (bits : Nat) :
    value.add (.finite false (k <<< bits) (-bits)) =
      ofRatio false (if negative then k - n else k + n) 1 := by
  obtain ⟨m, e, rfl, whole⟩ := natural
  have low : min e (-(bits : Int)) ≤ 0 := by omega
  have left := aligned_whole whole (by omega : min e (-(bits : Int)) ≤ e) low
  have right := aligned_whole (whole_bits k bits) (by omega : min e (-(bits : Int)) ≤ -(bits : Int)) low
  simp only [add, aligned, left, right, Bool.false_eq_true, if_false]
  have exact := ofShifted_whole false (if negative then k - n else k + n) low
  generalize (-min e (-(bits : Int))).toNat = shift at exact ⊢
  have unit : 0 < 2 ^ shift := Nat.pow_pos (by decide)
  have larger : n * 2 ^ shift < k * 2 ^ shift := (Nat.mul_lt_mul_right unit).mpr below
  rw [← exact]
  simp only [Nat.shiftLeft_eq]
  generalize min e (-(bits : Int)) = base
  generalize 2 ^ shift = factor at unit larger ⊢
  cases negative with
  | false =>
    have sum : ((n * factor : Nat) : Int) + (k * factor : Nat) = ((k + n) * factor : Nat) := by
      rw [Nat.add_mul]
      omega
    have positive : (k + n) * factor ≠ 0 := Nat.mul_ne_zero (by omega) (by omega)
    simp only [Bool.false_eq_true, if_false, sum]
    generalize (k + n) * factor = total at positive
    have sign : ¬(total : Int) < 0 := by omega
    simp [positive, sign]
  | true =>
    have sum : -((n * factor : Nat) : Int) + (k * factor : Nat) = ((k - n) * factor : Nat) := by
      rw [Nat.sub_mul]
      omega
    have positive : (k - n) * factor ≠ 0 := Nat.mul_ne_zero (by omega) (by omega)
    simp only [if_true, sum]
    generalize (k - n) * factor = total at positive
    have sign : ¬(total : Int) < 0 := by omega
    simp [positive, sign]

/-- The remainder of two whole numbers, of which the second one has all the bits of its fraction. -/
theorem rem_whole (natural : IsNatural negative n value) {k : Nat} (positive : 0 < k) (bits : Nat) :
    value.rem (.finite false (k <<< bits) (-bits)) = ofRatio negative (n % k) 1 := by
  obtain ⟨m, e, rfl, whole⟩ := natural
  have nonzero : (k <<< bits == 0) = false :=
    beq_eq_false_iff_ne.mpr (Nat.ne_of_gt (shiftLeft_pos positive bits))
  have low : min e (-(bits : Int)) ≤ 0 := by omega
  have left := aligned_whole whole (by omega : min e (-(bits : Int)) ≤ e) low
  have right := aligned_whole (whole_bits k bits) (by omega : min e (-(bits : Int)) ≤ -(bits : Int)) low
  simp only [rem, nonzero, aligned, Bool.false_eq_true, if_false, Int.natAbs_natCast, left, right,
    shiftLeft_mod_shiftLeft]
  exact ofShifted_whole negative (n % k) low

end Operations

end Double

theorem inRange_valueOf (chars : List Char) : (valueOf chars).InRange := by
  fun_induction valueOf chars with
  | case1 rest ih => exact Double.inRange_negate ih
  | case2 rest ih => exact ih
  | case3 unsigned =>
    cases Literal.read? unsigned with
    | none => trivial
    | some literal => exact Double.inRange_ofDecimal _ _ _

end FootprintTemplate.Number
