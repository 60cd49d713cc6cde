import FootprintTemplate.Proofs.Group.Order

/-! The groups of a footprint as a partition of its children. Each child but the placement and the
layer of the footprint is in one group; the groups come in a fixed order, and those of drawings in
the order of their layers. -/
namespace FootprintTemplate

open Sexpr (Node)

section Classes

variable {α β : Type} [BEq β] [LawfulBEq β]

/-- Values taken apart by a property of theirs are the same values in another order. -/
theorem flatMap_filter_perm {f : α → β} {keys : List β} {values : List α} (once : keys.Nodup)
    (known : ∀ value ∈ values, f value ∈ keys) :
    (keys.flatMap fun key => values.filter (f · == key)).Perm values := by
  induction keys generalizing values with
  | nil =>
    cases values with
    | nil => exact .refl _
    | cons value => exact absurd (known value List.mem_cons_self) List.not_mem_nil
  | cons key rest ih =>
    obtain ⟨new, once⟩ := List.nodup_cons.mp once
    -- What the other keys find is not under this one, so it is found among the remaining values.
    have others : rest.flatMap (fun other => values.filter (f · == other)) =
        rest.flatMap fun other =>
          (values.filter fun value => !(f value == key)).filter (f · == other) := by
      refine List.flatMap_congr fun other member => ?_
      rw [List.filter_filter]
      refine List.filter_congr fun value _ => ?_
      by_cases own : f value = other
      · subst own
        have apart : f value ≠ key := fun same => new (same ▸ member)
        simp [apart]
      · simp [own]
    rw [List.flatMap_cons, others]
    refine ((ih once fun value member => ?_).append_left _).trans
      (List.filter_append_perm (f · == key) values)
    obtain ⟨inside, apart⟩ := List.mem_filter.mp member
    have apart : f value ≠ key := by simpa using apart
    exact (List.mem_cons.mp (known value inside)).resolve_left apart

end Classes

section Groups

variable {lower : String → String} {kind : GroupKind} {children : List Node}

/-- The drawings that declare a layer, under its heading. -/
def drawingGroup (drawings : List Node) (layer : String) : Group :=
  ⟨.drawings, "Drawings on " ++ layer, drawings.filter (drawingLayer · == layer)⟩

/-- The groups of these children under any way to lower the case of layers. -/
def groupsBy (lower : String → String) : GroupKind → List Node → List Group
  | _, [] => []
  | .drawings, drawings => (drawingLayers lower drawings).map (drawingGroup drawings)
  | kind, children => [⟨kind, kind.label, children⟩]

def classifyBy (lower : String → String) (footprint : Node) : List Group :=
  GroupKind.all.flatMap fun kind => groupsBy lower kind (childrenOf kind footprint)

theorem groupOf_eq_groupsBy (kind : GroupKind) (children : List Node) :
    groupOf kind children = groupsBy Text.lowercase kind children := by
  cases children with
  | nil => cases kind <;> rfl
  | cons first rest =>
    cases kind with
    | drawings =>
      change drawingGroups (first :: rest) = _
      rw [drawingGroups, layerLe_eq]
      rfl
    | _ => rfl

theorem classify_eq_classifyBy (footprint : Node) :
    classify footprint = classifyBy Text.lowercase footprint :=
  List.flatMap_congr fun kind _ => groupOf_eq_groupsBy kind (childrenOf kind footprint)

theorem groupsBy_drawings (drawings : List Node) :
    groupsBy lower .drawings drawings = (drawingLayers lower drawings).map (drawingGroup drawings) := by
  cases drawings with
  | nil => simp [groupsBy, drawingLayers]
  | cons => rfl

theorem groupsBy_other (other : kind ≠ .drawings) :
    groupsBy lower kind children = if children = [] then [] else [⟨kind, kind.label, children⟩] := by
  cases children with
  | nil => cases kind <;> rfl
  | cons =>
    cases kind with
    | drawings => exact absurd rfl other
    | _ => rfl

theorem flatMap_groupsBy_perm :
    ((groupsBy lower kind children).flatMap Group.nodes).Perm children := by
  by_cases drawings : kind = .drawings
  · subst drawings
    have once : (drawingLayers lower children).Nodup :=
      (drawingLayers_increasing children).imp fun before same => (same ▸ before).false
    rw [groupsBy_drawings, List.flatMap_map]
    exact flatMap_filter_perm once fun child member => mem_drawingLayers.mpr ⟨child, member, rfl⟩
  · rw [groupsBy_other drawings]
    split
    · rename_i empty
      rw [empty]
      exact .refl _
    · simp

theorem mem_groupsBy {group : Group} (member : group ∈ groupsBy lower kind children) :
    group.kind = kind ∧ group.nodes ≠ [] ∧ group.nodes.Sublist children := by
  by_cases drawings : kind = .drawings
  · subst drawings
    rw [groupsBy_drawings] at member
    obtain ⟨layer, known, rfl⟩ := List.mem_map.mp member
    obtain ⟨drawing, inside, own⟩ := mem_drawingLayers.mp known
    refine ⟨rfl, ?_, List.filter_sublist⟩
    exact List.ne_nil_of_mem (List.mem_filter.mpr ⟨inside, beq_iff_eq.mpr own⟩)
  · rw [groupsBy_other drawings] at member
    split at member
    · cases member
    · rename_i nonempty
      rw [List.mem_singleton.mp member]
      exact ⟨rfl, nonempty, List.Sublist.refl _⟩

end Groups

/-- The place of a kind in the written order. -/
def GroupKind.rank (kind : GroupKind) : Nat :=
  GroupKind.all.idxOf kind

/-- What the groups of a footprint are, whatever lowers the case of layers. -/
structure IsPartition (lower : String → String) (footprint : Node) (groups : List Group) :
    Prop where
  /-- All children but the footprint's own placement and layer, as often as they stand there. -/
  children : (groups.flatMap Group.nodes).Perm
    (footprint.nodes.filter fun child => child.kind != "at" && child.kind != "layer")
  nonempty : ∀ group ∈ groups, group.nodes ≠ []
  ofKind : ∀ group ∈ groups, ∀ child ∈ group.nodes, GroupKind.of? child.kind = some group.kind
  inOrder : ∀ group ∈ groups, group.nodes.Sublist footprint.nodes
  /-- Only drawings have more than one group. -/
  kinds : groups.Pairwise fun first second => first.kind.rank < second.kind.rank ∨
    (first.kind = .drawings ∧ second.kind = .drawings)
  layers : ∃ layers : List String,
    groups.filter (·.kind == .drawings) =
        layers.map (drawingGroup (childrenOf .drawings footprint)) ∧
      (layers.Pairwise fun first second => layerKey lower first < layerKey lower second) ∧
      ∀ layer, layer ∈ layers ↔ ∃ drawing ∈ footprint.nodes,
        GroupKind.of? drawing.kind = some .drawings ∧ drawingLayer drawing = layer

section Partition

variable {lower : String → String} {footprint : Node}

theorem GroupKind.mem_all (kind : GroupKind) : kind ∈ GroupKind.all := by
  cases kind <;> decide

theorem GroupKind.of?_eq_none {kind : String} :
    GroupKind.of? kind = none ↔ kind = "at" ∨ kind = "layer" := by
  refine ⟨fun outside => (kind_of_of? outside).1 rfl, ?_⟩
  rintro (rfl | rfl) <;> rfl

theorem childrenOf_all_perm (footprint : Node) :
    (GroupKind.all.flatMap (childrenOf · footprint)).Perm
      (footprint.nodes.filter fun child => child.kind != "at" && child.kind != "layer") := by
  have grouped : (footprint.nodes.filter fun child => child.kind != "at" && child.kind != "layer") =
      footprint.nodes.filter fun child => (GroupKind.of? child.kind).isSome := by
    refine List.filter_congr fun child _ => Bool.eq_iff_iff.mpr ?_
    rw [Option.isSome_iff_ne_none, ne_eq, GroupKind.of?_eq_none]
    simp
  have own : GroupKind.all.flatMap (childrenOf · footprint) =
      (GroupKind.all.map some).flatMap fun kind =>
        (footprint.nodes.filter fun child => (GroupKind.of? child.kind).isSome).filter
          (GroupKind.of? ·.kind == kind) := by
    rw [List.flatMap_map]
    refine List.flatMap_congr fun kind _ => ?_
    rw [childrenOf, List.filter_filter]
    refine List.filter_congr fun child _ => ?_
    by_cases same : GroupKind.of? child.kind = some kind <;> simp [same]
  rw [grouped, own]
  refine flatMap_filter_perm (by decide) fun child member => ?_
  obtain ⟨kind, found⟩ := Option.isSome_iff_exists.mp (List.mem_filter.mp member).2
  exact List.mem_map.mpr ⟨kind, kind.mem_all, found.symm⟩

theorem mem_classifyBy {group : Group} (member : group ∈ classifyBy lower footprint) :
    group.nodes ≠ [] ∧ group.nodes.Sublist (childrenOf group.kind footprint) := by
  obtain ⟨kind, -, inside⟩ := List.mem_flatMap.mp member
  obtain ⟨rfl, nonempty, sublist⟩ := mem_groupsBy inside
  exact ⟨nonempty, sublist⟩

theorem kinds_classifyBy : (classifyBy lower footprint).Pairwise fun first second =>
    first.kind.rank < second.kind.rank ∨
      (first.kind = .drawings ∧ second.kind = .drawings) := by
  refine List.pairwise_flatMap.mpr ⟨fun kind _ => ?_, ?_⟩
  · by_cases drawings : kind = .drawings
    · subst drawings
      refine List.Pairwise.imp_of_mem (R := fun _ _ => True) (fun one two _ => .inr ?_)
        (List.pairwise_of_forall fun _ _ => trivial)
      exact ⟨(mem_groupsBy one).1, (mem_groupsBy two).1⟩
    · rw [groupsBy_other drawings]
      split
      · exact .nil
      · exact List.pairwise_singleton _ _
  · have ranks : GroupKind.all.Pairwise fun kind other => kind.rank < other.rank := by decide
    refine ranks.imp fun before first one second two => .inl ?_
    rwa [(mem_groupsBy one).1, (mem_groupsBy two).1]

theorem drawings_classifyBy (lower : String → String) (footprint : Node) :
    (classifyBy lower footprint).filter (·.kind == .drawings) =
      groupsBy lower .drawings (childrenOf .drawings footprint) := by
  have own (kind : GroupKind) : (groupsBy lower kind (childrenOf kind footprint)).filter
      (·.kind == .drawings) =
        if kind = .drawings then groupsBy lower .drawings (childrenOf .drawings footprint) else [] := by
    split
    · rename_i drawings
      subst drawings
      exact List.filter_eq_self.mpr fun group member => beq_iff_eq.mpr (mem_groupsBy member).1
    · rename_i other
      refine List.filter_eq_nil_iff.mpr fun group member isDrawing => ?_
      exact other ((mem_groupsBy member).1.symm.trans (beq_iff_eq.mp isDrawing))
  rw [classifyBy, List.filter_flatMap]
  simp only [own]
  simp [GroupKind.all]

/-- The groups are a partition of the children, and that does not hang on how the case of layers is
lowered. -/
theorem classify_partition (footprint : Node) :
    classify footprint = classifyBy Text.lowercase footprint ∧
      ∀ lower, IsPartition lower footprint (classifyBy lower footprint) := by
  refine ⟨classify_eq_classifyBy footprint, fun lower => ?_⟩
  refine ⟨?_, fun group member => (mem_classifyBy member).1, fun group member child inside => ?_,
    fun group member => ?_, kinds_classifyBy, drawingLayers lower (childrenOf .drawings footprint),
    ?_, drawingLayers_increasing _, fun layer => ?_⟩
  · rw [classifyBy, List.flatMap_assoc]
    exact (List.Perm.flatMap_left _ fun kind _ => flatMap_groupsBy_perm).trans
      (childrenOf_all_perm footprint)
  · have own := (mem_classifyBy member).2.subset inside
    exact beq_iff_eq.mp (List.mem_filter.mp own).2
  · exact (mem_classifyBy member).2.trans List.filter_sublist
  · rw [drawings_classifyBy, groupsBy_drawings]
  · rw [drawingLayers, mem_drawingLayers]
    simp [childrenOf, and_assoc]

end Partition

end FootprintTemplate
