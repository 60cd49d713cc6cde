import FootprintTemplate.Proofs.Group.Partition

/-! Nodes that are grouped already. Grouping puts nodes in an order that grouping them once more
leaves as it is. -/
namespace FootprintTemplate

open Sexpr (Node)

/-- The nodes of one kind in the order in which their groups are written. -/
def gathered (kind : GroupKind) (nodes : List Node) : List Node :=
  (groupOf kind nodes).flatMap Group.nodes

variable {kind : GroupKind} {nodes : List Node}

theorem flatMap_ite_of_mem {α β : Type} [DecidableEq α] {keys : List α} {key : α}
    (once : keys.Nodup) (known : key ∈ keys) (values : List β) :
    keys.flatMap (fun other => if other = key then values else []) = values := by
  induction keys with
  | nil => cases known
  | cons first rest ih =>
    obtain ⟨new, once⟩ := List.nodup_cons.mp once
    rw [List.flatMap_cons]
    by_cases own : first = key
    · subst own
      have none : rest.flatMap (fun other => if other = first then values else []) = [] := by
        refine List.flatMap_eq_nil_iff.mpr fun other member => if_neg ?_
        rintro rfl
        exact new member
      rw [if_pos rfl, none, List.append_nil]
    · rw [if_neg own, List.nil_append,
        ih once ((List.mem_cons.mp known).resolve_left (Ne.symm own))]

theorem gathered_other (other : kind ≠ .drawings) : gathered kind nodes = nodes := by
  rw [gathered, groupOf_eq_groupsBy, groupsBy_other other]
  split
  · rename_i empty
    rw [empty]
    rfl
  · simp

theorem gathered_drawings (drawings : List Node) :
    gathered .drawings drawings = (drawingLayers Text.lowercase drawings).flatMap fun layer =>
      drawings.filter (drawingLayer · == layer) := by
  rw [gathered, groupOf_eq_groupsBy, groupsBy_drawings, List.flatMap_map]
  rfl

theorem mem_gathered {child : Node} : child ∈ gathered kind nodes ↔ child ∈ nodes :=
  mem_groupOf

theorem filter_gathered_drawings {drawings : List Node} {layer : String}
    (known : layer ∈ drawingLayers Text.lowercase drawings) :
    (gathered .drawings drawings).filter (drawingLayer · == layer) =
      drawings.filter (drawingLayer · == layer) := by
  have once : (drawingLayers Text.lowercase drawings).Nodup :=
    (drawingLayers_increasing drawings).imp fun before same => (same ▸ before).false
  have own (other : String) : (drawings.filter (drawingLayer · == other)).filter
      (drawingLayer · == layer) =
        if other = layer then drawings.filter (drawingLayer · == layer) else [] := by
    rw [List.filter_filter]
    split
    · rename_i same
      rw [same]
      simp
    · rename_i apart
      refine List.filter_eq_nil_iff.mpr fun drawing _ both => apart ?_
      simp only [Bool.and_eq_true, beq_iff_eq] at both
      exact both.2.symm.trans both.1
  rw [gathered_drawings, List.filter_flatMap]
  simp only [own]
  exact flatMap_ite_of_mem once known _

theorem gathered_again : gathered kind (gathered kind nodes) = gathered kind nodes := by
  by_cases drawings : kind = .drawings
  · subst drawings
    have layers : drawingLayers Text.lowercase (gathered .drawings nodes) =
        drawingLayers Text.lowercase nodes :=
      drawingLayers_congr fun layer => by simp only [mem_gathered]
    rw [gathered_drawings (gathered .drawings nodes), layers, gathered_drawings nodes]
    refine List.flatMap_congr fun layer known => ?_
    rw [← gathered_drawings, filter_gathered_drawings known]
  · rw [gathered_other drawings, gathered_other drawings]

theorem gathered_map {change : Node → Node}
    (layers : kind = .drawings →
      ∀ drawing ∈ nodes, drawingLayer (change drawing) = drawingLayer drawing) :
    gathered kind (nodes.map change) = (gathered kind nodes).map change := by
  rw [gathered, groupOf_map kind layers, List.flatMap_map, gathered, List.map_flatMap]
  rfl

end FootprintTemplate
