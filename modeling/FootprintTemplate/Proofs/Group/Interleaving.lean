import FootprintTemplate.Convert
import FootprintTemplate.Proofs.Group.Partition

/-! How the children of different groups are interleaved. A conversion sees the groups alone: it is
the same for all footprints that have the same groups. -/
namespace FootprintTemplate

open Sexpr (Item Node)

/-- The drawings of a footprint that declare a layer. -/
def drawingsOn (layer : String) (footprint : Node) : List Node :=
  (childrenOf .drawings footprint).filter (drawingLayer · == layer)

/-- Footprints whose groups have the same children in the same order. Between the groups, and between
the layers of drawings, children may stand in any order. -/
structure SameGroups (first second : Node) : Prop where
  kind : first.kind = second.kind
  atoms : first.atoms = second.atoms
  /-- The layer of the footprint itself. -/
  layer : first.child? "layer" = second.child? "layer"
  children : ∀ kind, kind ≠ .drawings → childrenOf kind first = childrenOf kind second
  drawings : ∀ layer, drawingsOn layer first = drawingsOn layer second

section Same

variable {lower : String → String} {first second : Node}

theorem mem_drawingsOn {layer : String} {footprint drawing : Node} :
    drawing ∈ drawingsOn layer footprint ↔
      drawing ∈ childrenOf .drawings footprint ∧ drawingLayer drawing = layer := by
  rw [drawingsOn, List.mem_filter, beq_iff_eq]

theorem SameGroups.drawingLayers (same : SameGroups first second) :
    drawingLayers lower (childrenOf .drawings first) =
      FootprintTemplate.drawingLayers lower (childrenOf .drawings second) := by
  have declared (footprint : Node) (layer : String) :
      (∃ drawing ∈ childrenOf .drawings footprint, drawingLayer drawing = layer) ↔
        ∃ drawing, drawing ∈ drawingsOn layer footprint := by
    simp only [mem_drawingsOn]
  refine drawingLayers_congr fun layer => ?_
  rw [declared, declared, same.drawings]

theorem SameGroups.groupsBy (same : SameGroups first second) (kind : GroupKind) :
    groupsBy lower kind (childrenOf kind first) =
      FootprintTemplate.groupsBy lower kind (childrenOf kind second) := by
  by_cases drawings : kind = .drawings
  · subst drawings
    rw [groupsBy_drawings, groupsBy_drawings, same.drawingLayers]
    refine List.map_congr_left fun layer _ => ?_
    exact congrArg (Group.mk .drawings ("Drawings on " ++ layer)) (same.drawings layer)
  · rw [same.children kind drawings]

theorem SameGroups.classify (same : SameGroups first second) :
    classify first = FootprintTemplate.classify second := by
  rw [classify_eq_classifyBy, classify_eq_classifyBy]
  exact List.flatMap_congr fun kind _ => same.groupsBy kind

theorem SameGroups.draftBody (same : SameGroups first second) :
    draftBody first = FootprintTemplate.draftBody second := by
  have layer : draftLayer first = draftLayer second := by
    rw [draftLayer, draftLayer, same.layer, same.kind]
  have sections : draftSections first = draftSections second := by
    rw [draftSections, draftSections, same.classify, same.kind]
  rw [FootprintTemplate.draftBody, FootprintTemplate.draftBody, layer, sections]

/-- Footprints with the same groups convert to the same module with the same nets, or fail in the
same way. -/
theorem convert_interleaved (config : Config) (same : SameGroups first second) :
    convert config first = convert config second := by
  have side : sideOf first = sideOf second := by rw [sideOf, sideOf, same.layer]
  have head : header first = header second := by rw [header, header, same.kind, same.atoms]
  rw [convert, convert, same.kind, same.draftBody, side, head]

end Same

section Examples

def padItem (name : String) : Item :=
  .node "pad" [.atom name]

def lineItem (layer : String) : Item :=
  .node "fp_line" [.node "layer" [.atom layer]]

/-- Pads that compete for a name, and lines on two layers between them. -/
def mixedFootprint : Node :=
  ⟨"footprint", [lineItem "F.Fab", padItem "P1", .atom "a", lineItem "B.Fab", .node "layer" [.atom "B.Cu"],
    padItem "1", .node "zone" [], lineItem "F.Fab"]⟩

/-- The same children, group by group from the last to the first. -/
def gatheredFootprint : Node :=
  ⟨"footprint", [.atom "a", .node "zone" [], lineItem "B.Fab", lineItem "F.Fab", lineItem "F.Fab",
    padItem "P1", padItem "1", .node "layer" [.atom "B.Cu"]]⟩

theorem sameGroups_gathered : SameGroups mixedFootprint gatheredFootprint where
  kind := rfl
  atoms := rfl
  layer := rfl
  children kind other := by cases kind <;> first | rfl | exact absurd rfl other
  drawings layer := by
    by_cases front : layer = "F.Fab"
    · subst front
      rfl
    · by_cases back : layer = "B.Fab"
      · subst back
        rfl
      · have none (footprint : Node)
            (known : ∀ drawing ∈ childrenOf .drawings footprint,
              drawingLayer drawing = "F.Fab" ∨ drawingLayer drawing = "B.Fab") :
            drawingsOn layer footprint = [] := by
          rw [drawingsOn, List.filter_eq_nil_iff]
          intro drawing member own
          rcases known drawing member with same | same
          · exact front ((beq_iff_eq.mp own).symm.trans same)
          · exact back ((beq_iff_eq.mp own).symm.trans same)
        rw [none mixedFootprint, none gatheredFootprint]
        all_goals
          intro drawing member
          have names : drawing ∈ [_, _, _] := member
          simp only [List.mem_cons, List.not_mem_nil, or_false] at names
          rcases names with rfl | rfl | rfl <;> decide

theorem convert_interleaved_gathered :
    mixedFootprint.flatten ≠ gatheredFootprint.flatten ∧
      SameGroups mixedFootprint gatheredFootprint ∧
      convert {} mixedFootprint = convert {} gatheredFootprint :=
  ⟨by decide, sameGroups_gathered, convert_interleaved {} sameGroups_gathered⟩

end Examples

end FootprintTemplate
