import FootprintTemplate.Group
import Mathlib.Data.List.Basic

/-! Groups of a footprint's children, and their headings. Those of drawings alone hold text of the
source. -/
namespace FootprintTemplate

open Sexpr (Item Node)

section Items

theorem atom?_filter {keep : Item → Bool} (atoms : ∀ text, keep (.atom text) = true)
    (items : List Item) :
    (items.filter keep).filterMap Item.atom? = items.filterMap Item.atom? := by
  rw [List.filterMap_filter]
  refine congrArg (List.filterMap · items) (funext fun item => ?_)
  cases item with
  | atom text => rw [atoms, if_pos rfl]
  | node => exact ite_self none

theorem node?_filter {keep : Item → Bool} {kept : Node → Bool}
    (same : ∀ node : Node, keep node.item = kept node) (items : List Item) :
    (items.filter keep).filterMap Item.node? = (items.filterMap Item.node?).filter kept := by
  rw [List.filterMap_filter, List.filter_filterMap]
  refine congrArg (List.filterMap · items) (funext fun item => ?_)
  cases item with
  | atom => exact ite_self none
  | node kind inner =>
    have own := same ⟨kind, inner⟩
    rw [Node.item] at own
    rw [own]
    simp [Item.node?, Option.filter]

/-- Values that are left out make no difference where they have nothing to give. -/
theorem flatMap_filter {α β : Type} {values : List α} {keeps : α → Bool} {f g : α → List β}
    (kept : ∀ value ∈ values, keeps value = true → f value = g value)
    (hidden : ∀ value ∈ values, keeps value = false → g value = []) :
    (values.filter keeps).flatMap f = values.flatMap g := by
  induction values with
  | nil => rfl
  | cons value rest ih =>
    obtain ⟨own, others⟩ := List.forall_mem_cons.mp kept
    obtain ⟨ownHidden, othersHidden⟩ := List.forall_mem_cons.mp hidden
    rw [List.flatMap_cons, ← ih others othersHidden, List.filter_cons]
    cases keep : keeps value with
    | false => rw [ownHidden keep, List.nil_append, if_neg Bool.false_ne_true]
    | true => rw [← own keep, if_pos rfl, List.flatMap_cons]

end Items

/-- The children of a footprint in one group kind. -/
def childrenOf (kind : GroupKind) (footprint : Node) : List Node :=
  footprint.nodes.filter (GroupKind.of? ·.kind == some kind)

/-- The kinds of nodes that are in no group, or in a group that a kind or a list of kinds makes up. -/
theorem GroupKind.kind_of_of? {kind : String} {group : Option GroupKind} (own : of? kind = group) :
    (group = none → kind = "at" ∨ kind = "layer") ∧ (group = some .pads → kind = "pad") ∧
      (group = some .drawings → kind ∈ drawingKinds) := by
  subst own
  unfold of?
  repeat'
    refine iteInduction (motive := fun group => (group = none → kind = "at" ∨ kind = "layer") ∧
      (group = some pads → kind = "pad") ∧ (group = some drawings → kind ∈ drawingKinds))
      (fun own => ?_) (fun _ => ?_)
  · exact ⟨fun _ => by simpa using own, nofun, nofun⟩
  · exact ⟨nofun, nofun, nofun⟩
  · exact ⟨nofun, fun _ => by simpa using own, nofun⟩
  · exact ⟨nofun, nofun, fun _ => by simpa using own⟩
  all_goals exact ⟨nofun, nofun, nofun⟩

def groupsOf (kind : GroupKind) (footprint : Node) : List Group :=
  groupOf kind (childrenOf kind footprint)

/-- In whatever order they stand, the layers are those that the drawings declare. -/
theorem mem_drawingLayers {le : String → String → Bool} {drawings : List Node} {layer : String} :
    layer ∈ (drawings.map drawingLayer).eraseDups.mergeSort le ↔
      ∃ drawing ∈ drawings, drawingLayer drawing = layer := by
  rw [List.mem_mergeSort, List.mem_eraseDups, List.mem_map]

theorem mem_groupOf {kind : GroupKind} {nodes : List Node} {child : Node} :
    child ∈ (groupOf kind nodes).flatMap Group.nodes ↔ child ∈ nodes := by
  unfold groupOf
  split
  · exact Iff.rfl
  · simp only [drawingGroups, List.flatMap_map, List.mem_flatMap, List.mem_filter, beq_iff_eq]
    constructor
    · rintro ⟨layer, -, member, -⟩
      exact member
    · exact fun member =>
        ⟨drawingLayer child, mem_drawingLayers.mpr ⟨child, member, rfl⟩, member, rfl⟩
  · simp

theorem label_drawingGroups {drawings : List Node} {property : String → Prop} :
    (∀ group ∈ drawingGroups drawings, property group.label) ↔
      ∀ drawing ∈ drawings, property ("Drawings on " ++ drawingLayer drawing) := by
  constructor
  · intro all drawing member
    exact all _ (List.mem_map_of_mem (mem_drawingLayers.mpr ⟨drawing, member, rfl⟩))
  · intro all group member
    obtain ⟨layer, known, rfl⟩ := List.mem_map.mp member
    obtain ⟨drawing, own, rfl⟩ := mem_drawingLayers.mp known
    exact all drawing own

theorem label_groupOf {kind : GroupKind} {nodes : List Node} (other : kind ≠ .drawings)
    {group : Group} (member : group ∈ groupOf kind nodes) : group.label = kind.label := by
  cases nodes with
  | nil => cases kind <;> cases member
  | cons first rest =>
    have single : groupOf kind (first :: rest) = [⟨kind, kind.label, first :: rest⟩] := by
      cases kind with
      | drawings => exact absurd rfl other
      | _ => rfl
    rw [single] at member
    rw [List.mem_singleton.mp member]

theorem label_classify {footprint : Node} (property : String → Prop)
    (fixed : ∀ kind : GroupKind, property kind.label) :
    (∀ group ∈ classify footprint, property group.label) ↔
      ∀ drawing ∈ footprint.nodes, GroupKind.of? drawing.kind = some .drawings →
        property ("Drawings on " ++ drawingLayer drawing) := by
  have own : (∀ group ∈ groupOf .drawings
      (footprint.nodes.filter (GroupKind.of? ·.kind == some .drawings)), property group.label) ↔
        ∀ drawing ∈ footprint.nodes, GroupKind.of? drawing.kind = some .drawings →
          property ("Drawings on " ++ drawingLayer drawing) := by
    have groups (drawings : List Node) : groupOf .drawings drawings = drawingGroups drawings := by
      cases drawings <;> simp [groupOf, drawingGroups]
    rw [groups, label_drawingGroups]
    simp [List.mem_filter]
  rw [← own]
  constructor
  · intro all group member
    exact all group (List.mem_flatMap.mpr ⟨.drawings, by decide, member⟩)
  · intro drawings group member
    obtain ⟨kind, -, inside⟩ := List.mem_flatMap.mp member
    by_cases isDrawing : kind = .drawings
    · subst isDrawing
      exact drawings group inside
    · rw [label_groupOf isDrawing inside]
      exact fixed kind

section Changed

def Group.map (change : Node → Node) (group : Group) : Group :=
  { group with nodes := group.nodes.map change }

variable {change : Node → Node} {nodes : List Node}

theorem drawingGroups_map
    (layers : ∀ drawing ∈ nodes, drawingLayer (change drawing) = drawingLayer drawing) :
    drawingGroups (nodes.map change) = (drawingGroups nodes).map (Group.map change) := by
  have declared : (nodes.map change).map drawingLayer = nodes.map drawingLayer := by
    rw [List.map_map]
    exact List.map_congr_left layers
  have own (layer : String) : (nodes.map change).filter (drawingLayer · == layer) =
      (nodes.filter (drawingLayer · == layer)).map change := by
    rw [List.filter_map]
    refine congrArg _ (List.filter_congr fun drawing member => ?_)
    rw [Function.comp_apply, layers drawing member]
  simp only [drawingGroups, declared, own, List.map_map]
  rfl

theorem groupOf_map (kind : GroupKind)
    (layers : kind = .drawings →
      ∀ drawing ∈ nodes, drawingLayer (change drawing) = drawingLayer drawing) :
    groupOf kind (nodes.map change) = (groupOf kind nodes).map (Group.map change) := by
  cases nodes with
  | nil => cases kind <;> rfl
  | cons first rest =>
    by_cases drawings : kind = .drawings
    · subst drawings
      exact drawingGroups_map (layers rfl)
    · cases kind with
      | drawings => exact absurd rfl drawings
      | _ => rfl

end Changed

end FootprintTemplate
