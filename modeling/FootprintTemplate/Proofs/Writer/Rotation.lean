import FootprintTemplate.Proofs.Writer.Negated
import Mathlib.Algebra.Order.Floor.Ring
import Mathlib.Data.Rat.Floor
import Mathlib.Tactic.LinearCombination

/-! Rotations in exact numbers. The expression that adds a further rotation to the one of the placement
is computed in the rationals, with the remainder of division toward zero; whatever the signs are, it
comes to the one angle within a turn. -/
namespace FootprintTemplate

namespace Template

open Number (exactOf)
open Script (Tree)

section Remainder

/-- The whole part toward zero. -/
def truncated (value : ℚ) : ℤ :=
  if 0 ≤ value then ⌊value⌋ else ⌈value⌉

/-- The remainder of division toward zero. It has the sign of the dividend. -/
def truncatedRem (value divisor : ℚ) : ℚ :=
  value - divisor * truncated (value / divisor)

theorem neg_one_lt_sub_truncated (value : ℚ) : -1 < value - truncated value := by
  unfold truncated
  split
  · have below := Int.floor_le value
    linarith
  · have above := Int.ceil_lt_add_one value
    linarith

/-- A whole divisor added to the remainder makes a second remainder that of division toward the lower
number. -/
theorem truncatedRem_add_self (value : ℚ) {divisor : ℚ} (positive : 0 < divisor) :
    truncatedRem (truncatedRem value divisor + divisor) divisor =
      divisor * Int.fract (value / divisor) := by
  have nonzero := positive.ne'
  have above := neg_one_lt_sub_truncated (value / divisor)
  have quotient : (truncatedRem value divisor + divisor) / divisor =
      value / divisor - truncated (value / divisor) + 1 := by
    rw [truncatedRem]
    field_simp
  have whole : truncated (value / divisor - truncated (value / divisor) + 1) =
      ⌊value / divisor⌋ - truncated (value / divisor) + 1 := by
    rw [truncated, if_pos (by linarith), Int.floor_add_one, Int.floor_sub_intCast]
  have split : value = divisor * (value / divisor) := by field_simp
  rw [truncatedRem, quotient, whole, truncatedRem, Int.fract]
  push_cast
  linear_combination split

end Remainder

section Angles

/-- Exact decimals. -/
def decimals : Arithmetic ℚ where
  read text := (exactOf text.toList).getD 0
  add := (· + ·)
  rem := truncatedRem

/-- The angle that is computed for an exact rotation of the placement. -/
def exactTurn (delta : String) (rotation : ℚ) : ℚ :=
  (Angle.turned delta).eval decimals rotation

theorem exactOf_fullTurn : exactOf "360".toList = some 360 :=
  Number.exactOf_natural rfl (by decide)

theorem exactTurn_eq {delta : String} {value : ℚ} (exact : exactOf delta.toList = some value)
    (rotation : ℚ) : exactTurn delta rotation = 360 * Int.fract ((rotation + value) / 360) := by
  have turn : decimals.read "360" = 360 := congrArg (Option.getD · 0) exactOf_fullTurn
  have added : decimals.read delta = value := congrArg (Option.getD · 0) exact
  change truncatedRem (truncatedRem (rotation + decimals.read delta) (decimals.read "360") +
    decimals.read "360") (decimals.read "360") = _
  rw [turn, added, truncatedRem_add_self _ (by norm_num)]

/-- The angle is that of both rotations together, within one turn; whole turns change nothing. -/
structure NormalTurn (delta : String) (value : ℚ) : Prop where
  exact : exactOf delta.toList = some value
  within : ∀ rotation, 0 ≤ exactTurn delta rotation ∧ exactTurn delta rotation < 360
  congruent : ∀ rotation, ∃ turns : ℤ, exactTurn delta rotation = rotation + value + turns * 360
  placed : ∀ rotation (turns : ℤ),
    exactTurn delta (rotation + turns * 360) = exactTurn delta rotation
  added : ∀ rotation (turns : ℤ) (other : String),
    exactOf other.toList = some (value + turns * 360) →
      exactTurn other rotation = exactTurn delta rotation

theorem normalTurn {delta : String} {value : ℚ} (exact : exactOf delta.toList = some value) :
    NormalTurn delta value := by
  have turned := exactTurn_eq exact
  have whole (sum : ℚ) (turns : ℤ) : Int.fract ((sum + turns * 360) / 360) = Int.fract (sum / 360) := by
    rw [add_div, mul_div_cancel_right₀ _ (by norm_num), Int.fract_add_intCast]
  refine ⟨exact, fun rotation => ?_, fun rotation => ?_, fun rotation turns => ?_,
    fun rotation turns other exactToo => ?_⟩
  · have low := Int.fract_nonneg ((rotation + value) / 360)
    have high := Int.fract_lt_one ((rotation + value) / 360)
    rw [turned]
    constructor <;> linarith
  · refine ⟨-⌊(rotation + value) / 360⌋, ?_⟩
    rw [turned, Int.fract]
    push_cast
    ring
  · rw [turned, turned, add_right_comm, whole]
  · rw [turned, exactTurn_eq exactToo, ← add_assoc, whole]

/-- A number literal as a script reads it. -/
def numberTree (text : String) : Tree :=
  ((Number.Literal.read? text.toList).map fun literal =>
    Script.signedNumber literal.sign.toList literal.magnitude).getD .absent

/-- The expression as a script reads it. Compound operands stand in parentheses. -/
def Angle.tree : Angle → Tree
  | .placed => .member (.name "p") (.constant (.text (Text.units "r")))
  | .literal text => numberTree text
  | .sum left right => .binary .add (operand left left.tree) (operand right right.tree)
  | .rem left right => .binary .rem (operand left left.tree) (operand right right.tree)
where
  operand (angle : Angle) (tree : Tree) : Tree :=
    if angle.isCompound then .enclosed tree else tree

end Angles

end Template

namespace Writer

open Number (exactOf isAscii isNumber)
open Sexpr (Item Node)
open Template (Angle Filling Fragment NormalTurn numberTree)

section Written

variable {parent : Option String} {node : Node} {fragments : List Fragment}

/-- The further rotation of a place that prints one. -/
def turn? : Fragment → Option (Option String)
  | .rotation delta => some delta
  | _ => none

theorem tree_turned {delta : String} {literal : Number.Literal}
    (read : Number.Literal.read? delta.toList = some literal) :
    (Angle.turned delta).tree =
      Script.turned (Script.signedNumber literal.sign.toList literal.magnitude)
        (.constant (.number Script.fullTurn)) := by
  have turn : numberTree "360" = .constant (.number Script.fullTurn) := rfl
  have added : numberTree delta = Script.signedNumber literal.sign.toList literal.magnitude := by
    rw [numberTree, read]
    rfl
  rw [← turn, ← added]
  rfl

theorem parse_rotation (netOf : String → String) {delta : String} (number : isNumber delta = true) :
    Script.parse (expression netOf (.rotation (some delta))) =
      if isAscii delta.toList then some (Script.scriptOf (Angle.turned delta).tree) else none := by
  obtain ⟨literal, read⟩ := Option.isSome_iff_exists.mp number
  rw [expression_rotation, Script.parse_turned read, tree_turned read]

/-- Flags print no rotation. -/
theorem turn?_flags (flags : List String) :
    (flags.flatMap fun flag => [Fragment.punct " ", .source flag]).filterMap turn? = [] := by
  induction flags with
  | nil => rfl
  | cons flag rest ih => exact ih

/-- A placement that can be written prints one rotation. With a further rotation in the source, a script
reads the expression just where its digits are ASCII; then the angle is in exact numbers that of both
rotations together, at least zero and less than a turn, and whole turns in either change nothing. It is
printed alike on both faces. -/
theorem write_turned (isPlacement : node.kind = "at") (other : parent ≠ some "model")
    (written : (write parent node).outcome = .ok fragments) (netOf : String → String) :
    ∃ x y delta flags, node.items = placementItems x y delta flags ∧
      IsPlacement x y delta flags ∧ fragments.filterMap turn? = [delta] ∧
      ∀ text ∈ delta,
        Script.parse (expression netOf (.rotation (some text))) =
          (if isAscii text.toList then some (Script.scriptOf (Angle.turned text).tree) else none) ∧
        (isAscii text.toList = true → ∃ value, NormalTurn text value) ∧
        ∀ (filling : Filling) flip, (Fragment.rotation (some text)).fill { filling with flip } =
          (Fragment.rotation (some text)).fill filling := by
  have rule : Rule.select parent node.kind = .at := by
    simp [Rule.select, Rule.coordinateKinds, isPlacement, other]
  change (writeItem parent (.node node.kind node.items)).outcome = _ at written
  rw [writeItem_node, rule] at written
  obtain ⟨layout, inner, lays, inside, rfl⟩ := exists_layout written
  generalize node.items = items at lays
  cases lays with
  | @«at» x y delta flags placement =>
    rw [placedAll_atoms] at inside
    cases inside
    refine ⟨x, y, delta, flags, rfl, placement, ?_, fun text added =>
      ⟨parse_rotation netOf (placement.delta text added), fun ascii => ?_, fun _ _ => rfl⟩⟩
    · rw [List.filterMap_append, List.filterMap_append, turn?_flags]
      unfold atCoordinate
      split <;> rfl
    obtain ⟨value, exact⟩ := Number.exists_exactOf (placement.delta text added) ascii
    exact ⟨value, Template.normalTurn exact⟩
  | generic plain => simp at plain
  | dropped skip => cases skip

theorem exactOf_signedPlacement : exactOf "+90".toList = some 90 :=
  @Number.exactOf_natural ['9', '0'] rfl (by decide)

/-- Placed at a turn and a quarter the other way, it ends at no rotation. -/
theorem write_turned_signedPlacement :
    signedPlacement.kind = "at" ∧ some "fp_text" ≠ some "model" ∧
      ∃ fragments, (write (some "fp_text") signedPlacement).outcome = .ok fragments ∧
        .rotation (some "+90") ∈ fragments ∧
        (Script.parse (expression id (.rotation (some "+90")))).isSome = true ∧
        NormalTurn "+90" 90 ∧ Template.exactTurn "+90" (-450) = 0 := by
  obtain ⟨x, y, delta, flags, -, -, shown, turned⟩ :=
    @write_turned (some "fp_text") signedPlacement _ rfl (by decide) rfl id
  obtain rfl : some "+90" = delta := (List.cons.inj shown).1
  obtain ⟨read, exact, -⟩ := turned "+90" rfl
  obtain ⟨value, normal⟩ := exact (by decide)
  obtain rfl : 90 = value := Option.some.inj (exactOf_signedPlacement.symm.trans normal.exact)
  refine ⟨rfl, by decide, _, rfl, by decide, ?_, normal, ?_⟩
  · rw [read]
    rfl
  · rw [Template.exactTurn_eq normal.exact]
    norm_num

/-- A placement whose further rotation ends in an Arabic digit. -/
def foreignTurn : Node :=
  ⟨"at", [.atom "0", .atom "0", .atom "9٠"]⟩

/-- It is written, and no script reads the expression of its rotation. -/
theorem write_foreignTurn :
    (∃ fragments, (write (some "fp_line") foreignTurn).outcome = .ok fragments ∧
      .rotation (some "9٠") ∈ fragments) ∧
    Script.parse (expression id (.rotation (some "9٠"))) = none := by
  refine ⟨⟨_, rfl, by decide⟩, ?_⟩
  rw [parse_rotation id (by decide)]
  rfl

end Written

end Writer

end FootprintTemplate
