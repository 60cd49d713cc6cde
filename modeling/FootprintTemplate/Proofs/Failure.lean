import FootprintTemplate.Proofs.Preview.Placed
import FootprintTemplate.Proofs.Writer.Misshapen

/-! Conversions that fail. A footprint is converted unless a node that is visited is misshapen; the
first of these is the one that is reported. -/
namespace FootprintTemplate

open Preview (writtenChildren)
open Sexpr (Item Node)
open Writer (Draft Misshapen Rule Visit visits)

/-- The nodes of a footprint in the order in which they are visited. -/
def visited (footprint : Node) : List Visit :=
  (writtenChildren footprint).flatMap fun child => visits (some footprint.kind) child.item

section Drafts

theorem findSome?_flatMap {α β γ : Type} (values : List α) (f : α → List β) (g : β → Option γ) :
    (values.flatMap f).findSome? g = values.findSome? fun value => (f value).findSome? g := by
  induction values with
  | nil => rfl
  | cons value rest ih =>
    rw [List.flatMap_cons, List.findSome?_append, ih, List.findSome?_cons]
    cases (f value).findSome? g <;> rfl

theorem failure?_draftStatement (root : String) (child : Node) :
    (draftStatement root child).failure? =
      (visits (some root) child.item).findSome? Visit.misshapen? := by
  by_cases skip : (Rule.select (some root) child.kind).disposition = .skip
  · have none : visits (some root) child.item = [] :=
      if_pos ((Writer.isWithheld_eq (some root) child.kind).trans (beq_iff_eq.mpr skip))
    rw [draftStatement_skip skip, none]
    rfl
  · rw [draftStatement_write skip, Draft.failure?_bind_pure]
    exact Writer.stops_item (some root) child.item

theorem failure?_draftStatements (root : String) (children : List Node) :
    (draftStatements root children).failure? =
      (children.flatMap fun child => visits (some root) child.item).findSome?
        Visit.misshapen? := by
  rw [draftStatements, Draft.failure?_bind_pure, Draft.failure?_all, List.findSome?_map,
    findSome?_flatMap]
  exact congrArg (List.findSome? · children) (funext (failure?_draftStatement root))

theorem failure?_draftSections (footprint : Node) :
    (draftSections footprint).failure? =
      (((classify footprint).flatMap Group.nodes).flatMap fun child =>
        visits (some footprint.kind) child.item).findSome? Visit.misshapen? := by
  rw [draftSections, Draft.failure?_all, List.findSome?_map, List.flatMap_assoc,
    findSome?_flatMap]
  refine congrArg (List.findSome? · (classify footprint)) (funext fun group => ?_)
  rw [Function.comp_apply, Draft.failure?_bind_pure, failure?_draftStatements]

theorem failure?_draftLayer (footprint : Node) :
    (draftLayer footprint).failure? =
      ((footprint.child? "layer").toList.flatMap fun child =>
        visits (some footprint.kind) child.item).findSome? Visit.misshapen? := by
  unfold draftLayer
  cases footprint.child? "layer" with
  | none => rfl
  | some layer =>
    rw [Option.toList_some, List.flatMap_singleton]
    exact failure?_draftStatement footprint.kind layer

theorem failure?_draftBody (footprint : Node) :
    (draftBody footprint).failure? = (visited footprint).findSome? Visit.misshapen? := by
  rw [visited, writtenChildren, List.flatMap_append, List.findSome?_append,
    ← failure?_draftLayer, ← failure?_draftSections, draftBody]
  obtain ⟨pads, outcome⟩ := draftLayer footprint
  cases outcome with
  | error => rfl
  | ok layer => exact Draft.failure?_bind_pure (draftSections footprint) _

end Drafts

/-- What a conversion fails with. A footprint of another kind is none; else the first visited node
that is misshapen is reported, and there is always a rule for a node. -/
theorem convert_failure (config : Config) (footprint : Node) :
    (∀ error, convert config footprint = .error error ↔
      (footprint.kind ∉ ["footprint", "module"] ∧ error = .notAFootprint footprint.kind) ∨
      (footprint.kind ∈ ["footprint", "module"] ∧
        ∃ misshapen, (visited footprint).findSome? Visit.misshapen? = some misshapen ∧
          error = .misshapen misshapen)) ∧
    ∀ parent kind, Rule.first? parent kind = some (Rule.select parent kind) := by
  refine ⟨fun error => ?_, Rule.first?_eq⟩
  have root : (footprint.kind == "footprint" || footprint.kind == "module") = true ↔
      footprint.kind ∈ ["footprint", "module"] := by simp
  rw [← failure?_draftBody]
  unfold convert
  split
  · rename_i isRoot
    have isRoot := root.mp isRoot
    simp only [isRoot, not_true_eq_false, false_and, true_and, false_or]
    split
    · rename_i misshapen failed
      simp [Draft.failure?, failed, eq_comm]
    · rename_i layer sections ok
      simp [Draft.failure?, ok]
  · rename_i notRoot
    have notRoot : footprint.kind ∉ ["footprint", "module"] := fun isRoot => notRoot (root.mpr isRoot)
    simp only [notRoot, not_false_eq_true, false_and, true_and, or_false, Except.error.injEq]
    exact eq_comm

end FootprintTemplate
