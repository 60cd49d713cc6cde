import FootprintTemplate.Proofs.Number.Reading
import FootprintTemplate.Proofs.Number.Whole
import FootprintTemplate.Proofs.Writer.Placed

/-! Rotations that are printed. A whole rotation is printed as a number of degrees within one turn,
and that number is printed as itself. -/
namespace FootprintTemplate.Writer

open Number (Double)
open Sexpr (Item)
open Template (Fragment)

theorem fullTurn_eq : fullTurn = .finite false (360 <<< 44) (-(44 : Nat)) := by
  decide

theorem isNatural_small (negative : Bool) {n : Nat} (small : n < 720) :
    Double.IsNatural negative n (.ofRatio negative n 1) :=
  Double.isNatural_ofRatio negative (m := n) (e := 0) (Nat.lt_trans small (by decide)) (by decide)

/-- A whole number of degrees is brought into one turn. -/
theorem turnedBy_natural (sign : Bool) {negative : Bool} {n : Nat} {delta : String}
    (natural : Double.IsNatural negative n (Number.valueOf delta.toList)) :
    turnedBy (.zero sign) (some delta) =
      .ofRatio false ((if negative then 360 - n % 360 else 360 + n % 360) % 360) 1 := by
  have range := Number.inRange_valueOf delta.toList
  have small : n % 360 < 360 := Nat.mod_lt n (by decide)
  have first := Double.zero_add_whole sign natural range
  have second := Double.rem_whole (natural.ofRatio range (negative && (sign || n != 0)))
    (by decide : 0 < 360) 44
  have third := Double.add_whole (isNatural_small (negative && (sign || n != 0)) (by omega)) small 44
  have bound : (if negative && (sign || n != 0) then 360 - n % 360 else 360 + n % 360) < 720 := by
    split <;> omega
  have last := Double.rem_whole (isNatural_small false bound) (by decide : 0 < 360) 44
  rw [turnedBy, fullTurn_eq, first, second, third, last]
  by_cases zero : n = 0
  · subst zero
    cases negative <;> cases sign <;> rfl
  · have other : (n != 0) = true := bne_iff_ne.mpr zero
    rw [other, Bool.or_true, Bool.and_true]

/-- Whole numbers of degrees within one turn are printed as their digits. -/
theorem chars_degrees : ∀ n < 360, Fragment.numberChars (.ofRatio false n 1) = Nat.toDigits 10 n := by
  decide +kernel

def degreeText (n : Nat) : String :=
  String.ofList (Nat.toDigits 10 n)

theorem toList_degreeText (n : Nat) : (degreeText n).toList = Nat.toDigits 10 n :=
  String.toList_ofList

theorem isNumber_degreeText (n : Nat) : Number.isNumber (degreeText n) = true := by
  rw [Number.isNumber, toList_degreeText]
  exact (Number.read_toDigits n).1

/-- Every whole rotation is printed as the digits of a number of degrees, which is no rotation
further. -/
theorem turned_whole (sign : Bool) {delta : Option String}
    (whole : ∀ text ∈ delta, (Number.valueOf text.toList).isWhole = true) :
    ∃ n, numberItem (turnedBy (.zero sign) delta) = .atom (degreeText n) ∧
      numberItem (turnedBy (.zero sign) (some (degreeText n))) = .atom (degreeText n) := by
  have again {n : Nat} (small : n < 360) :
      turnedBy (.zero sign) (some (degreeText n)) = .ofRatio false n 1 := by
    have value : Number.valueOf (degreeText n).toList = .ofRatio false n 1 := by
      rw [toList_degreeText]
      exact (Number.read_toDigits n).2
    have natural := isNatural_small false (by omega : n < 720)
    rw [← value] at natural
    rw [turnedBy_natural sign natural, if_neg Bool.false_ne_true, Nat.mod_eq_of_lt small,
      Nat.add_mod_left, Nat.mod_eq_of_lt small]
  have printed {n : Nat} (small : n < 360) :
      numberItem (.ofRatio false n 1) = .atom (degreeText n) := by
    rw [numberItem, chars_degrees n small]
    rfl
  cases delta with
  | none =>
    have start : numberItem (turnedBy (.zero sign) none) = .atom (degreeText 0) := by
      cases sign <;> rfl
    refine ⟨0, start, ?_⟩
    rw [again (by decide)]
    exact printed (by decide)
  | some text =>
    obtain ⟨negative, n, natural⟩ := Double.isNatural_of_isWhole (whole text rfl)
    have small := Nat.mod_lt (if negative then 360 - n % 360 else 360 + n % 360) (by decide : 360 > 0)
    have turned := turnedBy_natural sign natural
    generalize (if negative then 360 - n % 360 else 360 + n % 360) % 360 = degrees at small turned
    refine ⟨degrees, ?_, ?_⟩
    · rw [turned]
      exact printed small
    · rw [again small]
      exact printed small

end FootprintTemplate.Writer
