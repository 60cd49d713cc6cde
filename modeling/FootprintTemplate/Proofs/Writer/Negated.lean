import FootprintTemplate.Proofs.Number.Exact
import FootprintTemplate.Proofs.Writer.Numbers
import Mathlib.Tactic.Tauto

/-! Mirroring as negation. Of all that is written for a point or a placement only X hangs on the face,
and on the other face it is the opposite decimal of the source's X. -/
namespace FootprintTemplate.Writer

open Number (IsNearest exactOf isAscii isNumber isPlainZero mirrorChars valueOf)
open Sexpr (Item Node)
open Template (Filling Fragment fill)

/-- The text of an X coordinate that is read on a face. -/
def seenX (flip : Bool) : Fragment → List Char
  | .coordinate x => if flip then mirrorChars x.toList else x.toList
  | .source x => x.toList
  | _ => []

/-- The place of X is filled with the source's decimal on one face and with its opposite on the other.
Only for zero it is left as it is. -/
structure NegatesX (netOf : String → String) (x : String) (place : Fragment) (value : ℚ) : Prop where
  source : seenX false place = x.toList
  exact : exactOf (seenX false place) = some value
  negated : exactOf (seenX true place) = some (-value)
  nearest : ∀ flip, IsNearest (valueOf (seenX flip place)) (if flip then -value else value)
  script : (place = .source x ∧ place.chars netOf = x.toList ∧ value = 0) ∨
    place = .coordinate x ∧ place.chars netOf =
      Fragment.substitution (Script.choiceText (seenX true place) (seenX false place))
  filled : ∀ filling, place.fill filling = x.toList ∧ place = .source x ∨
    place.fill filling = Fragment.numberChars (valueOf (seenX filling.flip place))

/-- What stands around the X of a point or of a placement. -/
inductive LaysX (kind x : String) : List Item → List Fragment → Fragment → List Fragment → Prop where
  | point {y : String} (numberX : isNumber x = true) (numberY : isNumber y = true) :
      LaysX kind x [.atom x, .atom y] [.punct "(", .source kind, .punct " "] (.coordinate x)
        [.punct " ", .source y, .punct ")"]
  | placement {y : String} {delta : Option String} {flags : List String}
      (placement : IsPlacement x y delta flags) :
      LaysX kind x (placementItems x y delta flags) [.punct "(at "] (atCoordinate x)
        (.punct " " :: .source y :: .punct " " :: .rotation delta ::
          (flags.flatMap fun flag => [.punct " ", .source flag]) ++ [.punct ")"])

section Faces

theorem escapeTemplate_number {text : String} (number : isNumber text = true) :
    Script.escapeTemplate text.toList = text.toList := by
  have plain : ∀ c ∈ text.toList, ¬(c = '\\' ∨ c = '\x60' ∨ c = '$') := by
    rintro c member special
    have literal := Number.isLiteralChar_of_isNumber number c member
    revert literal
    obtain rfl | rfl | rfl := special <;> decide
  generalize text.toList = chars at plain
  induction chars with
  | nil => rfl
  | cons c rest ih =>
    obtain ⟨own, others⟩ := List.forall_mem_cons.mp plain
    rw [Script.escapeTemplate_cons, if_neg fun special => own (by tauto), ih others]
    rfl

theorem isNearest_seenX {place : Fragment} {value : ℚ}
    (exact : exactOf (seenX false place) = some value)
    (negated : exactOf (seenX true place) = some (-value)) (flip : Bool) :
    IsNearest (valueOf (seenX flip place)) (if flip then -value else value) := by
  cases flip with
  | false => exact Number.isNearest_valueOf exact
  | true => exact Number.isNearest_valueOf negated

variable {x : String} (netOf : String → String) (number : isNumber x = true)
  (ascii : isAscii x.toList = true)
include number ascii

theorem negatesX_coordinate : ∃ value, NegatesX netOf x (.coordinate x) value := by
  obtain ⟨value, exact⟩ := Number.exists_exactOf number ascii
  have negated : exactOf (seenX true (.coordinate x)) = some (-value) :=
    (Number.exactOf_mirrorChars x.toList).trans (by rw [exact]; rfl)
  exact ⟨value, rfl, exact, negated, isNearest_seenX exact negated, .inr ⟨rfl, choice_eq _ _⟩,
    fun filling => .inr rfl⟩

omit ascii in
theorem negatesX_source (zero : isPlainZero x = true) : NegatesX netOf x (.source x) 0 := by
  have exact := Number.exactOf_plainZero zero
  have negated : exactOf (seenX true (.source x)) = some (-0) := by
    rw [neg_zero]
    exact exact
  refine ⟨rfl, exact, negated, isNearest_seenX exact negated, .inl ⟨rfl, ?_, rfl⟩,
    fun filling => .inl ⟨lineFeeds_number number, rfl⟩⟩
  exact escapeTemplate_number number

theorem negatesX_atCoordinate : ∃ value, NegatesX netOf x (atCoordinate x) value := by
  unfold atCoordinate
  split
  · rename_i zero
    exact ⟨0, negatesX_source netOf number zero⟩
  · exact negatesX_coordinate netOf number ascii

end Faces

section Around

variable {kind x : String} {items : List Item} {front back : List Fragment} {place : Fragment}

theorem LaysX.number (lays : LaysX kind x items front place back) : isNumber x = true := by
  cases lays with
  | point numberX _ => exact numberX
  | placement placement => exact placement.x

theorem LaysX.head? (lays : LaysX kind x items front place back) :
    items.head? = some (.atom x) := by
  cases lays <;> rfl

theorem LaysX.negates (lays : LaysX kind x items front place back) (netOf : String → String)
    (ascii : isAscii x.toList = true) : ∃ value, NegatesX netOf x place value := by
  have number := lays.number
  cases lays with
  | point => exact negatesX_coordinate netOf number ascii
  | placement => exact negatesX_atCoordinate netOf number ascii

theorem fill_flags (filling : Filling) (flip : Bool) (flags : List String) :
    fill { filling with flip } (flags.flatMap fun flag => [.punct " ", .source flag]) =
      fill filling (flags.flatMap fun flag => [.punct " ", .source flag]) := by
  induction flags with
  | nil => rfl
  | cons flag rest ih =>
    rw [List.flatMap_cons, fill_append, fill_append, ih]
    rfl

/-- Nothing around X hangs on the face. -/
theorem LaysX.faceless (lays : LaysX kind x items front place back) (filling : Filling)
    (flip : Bool) : fill { filling with flip } front = fill filling front ∧
      fill { filling with flip } back = fill filling back := by
  cases lays with
  | point => exact ⟨rfl, rfl⟩
  | @placement y delta flags =>
    refine ⟨rfl, ?_⟩
    have turn : fill { filling with flip } [.punct " ", .source y, .punct " ", .rotation delta] =
        fill filling [.punct " ", .source y, .punct " ", .rotation delta] := rfl
    have shape : ∀ filling : Filling, fill filling (Fragment.punct " " :: .source y ::
        .punct " " :: .rotation delta :: (flags.flatMap fun flag => [.punct " ", .source flag]) ++
          [Fragment.punct ")"]) =
        fill filling [.punct " ", .source y, .punct " ", .rotation delta] ++
          (fill filling (flags.flatMap fun flag => [.punct " ", .source flag]) ++
            fill filling [.punct ")"]) := by
      intro filling
      rw [← fill_append, ← fill_append]
      rfl
    rw [shape, shape, turn, fill_flags]
    rfl

theorem placedAll_atoms (kind : String) (texts : List String) :
    placedAll kind ((texts.map .atom).map (partOf kind)) =
      .fragments (texts.flatMap fun text => [.punct " ", .source text]) := by
  induction texts with
  | nil => rfl
  | cons text rest ih =>
    have kept : (partOf kind (.atom text)).isDropped kind = false := rfl
    rw [List.map_cons, placedAll_kept kept, ih]
    rfl

end Around

section Written

variable {parent : Option String} {node : Node} {fragments : List Fragment}

/-- A node that holds one point, or the placement of anything but a model. -/
def IsPlaced (parent : Option String) (kind : String) : Prop :=
  kind ∈ Rule.coordinateKinds ∨ kind = "at" ∧ parent ≠ some "model"

theorem select_of_isPlaced {kind : String} (placed : IsPlaced parent kind) :
    Rule.select parent kind = .xy ∨ Rule.select parent kind = .at := by
  obtain point | ⟨rfl, other⟩ := placed
  · refine .inl ?_
    simp only [Rule.coordinateKinds, List.mem_cons, List.not_mem_nil, or_false] at point
    obtain rfl | rfl | rfl | rfl | rfl := point <;> rfl
  · refine .inr ?_
    simp [Rule.select, Rule.coordinateKinds, other]

theorem laysX_of_ok (placed : IsPlaced parent node.kind)
    (written : (write parent node).outcome = .ok fragments) :
    ∃ x front place back, LaysX node.kind x node.items front place back ∧
      fragments = front ++ place :: back := by
  change (writeItem parent (.node node.kind node.items)).outcome = _ at written
  rw [writeItem_node] at written
  obtain ⟨layout, inner, lays, inside, rfl⟩ := exists_layout written
  have rule := select_of_isPlaced placed
  generalize Rule.select parent node.kind = selected at lays rule
  generalize node.items = items at lays
  cases lays with
  | @xy x y numberX numberY =>
    cases inside
    exact ⟨x, _, _, _, .point numberX numberY, rfl⟩
  | @«at» x y delta flags placement =>
    rw [placedAll_atoms] at inside
    cases inside
    exact ⟨x, _, _, _, .placement placement, rfl⟩
  | generic plain => obtain rfl | rfl := rule <;> simp at plain
  | dropped skip => obtain rfl | rfl := rule <;> cases skip
  | unconnected | pad | layer | layers | effects | justify => simp at rule

/-- A point or a placement that can be written starts with its X, and with ASCII digits that is written
as the source's decimal on the footprint's own face and as its opposite on the other face; what stands
around it is the same on both. Mirroring twice changes no number. -/
theorem write_negated (placed : IsPlaced parent node.kind)
    (written : (write parent node).outcome = .ok fragments) (netOf : String → String) :
    (∃ x front place back, LaysX node.kind x node.items front place back ∧
      fragments = front ++ place :: back ∧
      (∀ filling flip, fill { filling with flip } front = fill filling front ∧
        fill { filling with flip } back = fill filling back) ∧
      (isAscii x.toList = true → ∃ value, NegatesX netOf x place value ∧
        (value ≠ 0 → place = .coordinate x))) ∧
    ∀ text, isNumber text = true → Number.mirror (Number.mirror text) = text := by
  obtain ⟨x, front, place, back, lays, split⟩ := laysX_of_ok placed written
  refine ⟨⟨x, front, place, back, lays, split, lays.faceless, fun ascii => ?_⟩, ?_⟩
  · obtain ⟨value, negates⟩ := lays.negates netOf ascii
    refine ⟨value, negates, fun nonzero => ?_⟩
    obtain ⟨-, -, zero⟩ | ⟨conditional, -⟩ := negates.script
    · exact absurd zero nonzero
    · exact conditional
  · intro text number
    have twice := Number.mirrorChars_mirrorChars number
    rw [Number.mirror, Number.mirror, String.toList_ofList, twice, String.ofList_toList]

/-- A placement whose X has a plus, no digit before the point, and an exponent. -/
def plusPlacement : Node :=
  ⟨"at", [.atom "+.5e1", .atom "2", .atom "-90", .atom "unlocked"]⟩

theorem exactOf_plusPlacement : exactOf "+.5e1".toList = some 5 := by
  have read : Number.Literal.read? ".5e1".toList =
      some ⟨none, [], some ['5'], some ⟨'e', none, ['1']⟩⟩ := by decide
  have ascii : isAscii ".5e1".toList = true := by decide
  change exactOf ".5e1".toList = _
  rw [Number.exactOf_unsigned rfl, if_pos ascii, read]
  have five : Number.naturalOf ['5'] = 5 := rfl
  have one : Number.naturalOf ['1'] = 1 := rfl
  have none : Number.naturalOf [] = 0 := rfl
  norm_num [Number.Literal.exact, Number.Exponent.value, five, one, none]

theorem write_negated_plusPlacement :
    IsPlaced (some "fp_text") plusPlacement.kind ∧
      ∃ fragments place, (write (some "fp_text") plusPlacement).outcome = .ok fragments ∧
        place ∈ fragments ∧ NegatesX id "+.5e1" place 5 ∧ place = .coordinate "+.5e1" ∧
        seenX true place = "-+.5e1".toList := by
  have placed : IsPlaced (some "fp_text") plusPlacement.kind := .inr ⟨rfl, by decide⟩
  obtain ⟨⟨x, front, place, back, lays, split, -, seen⟩, -⟩ := write_negated placed rfl id
  obtain rfl : "+.5e1" = x := Item.atom.inj (Option.some.inj lays.head?)
  obtain ⟨value, negates, conditional⟩ := seen (by decide)
  obtain rfl : 5 = value := by
    have exact := negates.exact
    rw [negates.source, exactOf_plusPlacement] at exact
    exact Option.some.inj exact
  obtain rfl := conditional (by norm_num)
  exact ⟨placed, _, _, rfl, by rw [split]; simp, negates, rfl, rfl⟩

end Written

end FootprintTemplate.Writer
