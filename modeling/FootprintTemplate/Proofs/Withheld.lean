import FootprintTemplate.Proofs.Body
import FootprintTemplate.Proofs.Failure
import FootprintTemplate.Proofs.Preview.Remarks
import FootprintTemplate.Proofs.Writer.Withheld

/-! Where a file came from, and the nets that its pads had. Nothing of either is in the module of a
footprint. -/
namespace FootprintTemplate

open Preview (load renderAll writtenChildren)
open Script (isOneLine)
open Sexpr (Item Node)
open Writer (Draft Rule Visit isWithheld)

section Trees

/-- The footprint with nothing in its nodes that are withheld. -/
def emptied (footprint : Node) : Node :=
  ⟨footprint.kind, Writer.emptiedAll footprint.kind footprint.items⟩

/-- The footprint without the nodes that are withheld. -/
def pruned (footprint : Node) : Node :=
  ⟨footprint.kind, Writer.prunedAll footprint.kind footprint.items⟩

def emptiedChild (root : String) (child : Node) : Node :=
  ⟨child.kind,
    if isWithheld (some root) child.kind then [] else Writer.emptiedAll child.kind child.items⟩

theorem nodes_emptied (footprint : Node) :
    (emptied footprint).nodes = footprint.nodes.map (emptiedChild footprint.kind) := by
  rw [Node.nodes, emptied, Writer.emptiedAll_eq_map, List.filterMap_map, Node.nodes,
    List.map_filterMap]
  refine congrArg (List.filterMap · footprint.items) (funext fun item => ?_)
  cases item <;> rfl

theorem nodes_pruned (footprint : Node) :
    (pruned footprint).nodes =
      (footprint.nodes.filter fun child => !isWithheld (some footprint.kind) child.kind).map
        pruned := by
  have kept : (footprint.items.filter (!Writer.isWithheldItem footprint.kind ·)).filterMap
      Item.node? = footprint.nodes.filter fun child => !isWithheld (some footprint.kind) child.kind :=
    node?_filter (fun _ => rfl) footprint.items
  rw [← kept, Node.nodes, pruned, Writer.prunedAll_eq_map, List.filterMap_map, List.map_filterMap]
  refine congrArg (List.filterMap · _) (funext fun item => ?_)
  cases item <;> rfl

theorem atoms_emptied (footprint : Node) : (emptied footprint).atoms = footprint.atoms := by
  rw [Node.atoms, emptied, Writer.emptiedAll_eq_map, List.filterMap_map]
  refine congrArg (List.filterMap · footprint.items) (funext fun item => ?_)
  cases item <;> rfl

theorem atoms_pruned (footprint : Node) : (pruned footprint).atoms = footprint.atoms := by
  have kept : (Item.atom? ∘ Writer.pruned) = Item.atom? := funext fun item => by cases item <;> rfl
  rw [Node.atoms, pruned, Writer.prunedAll_eq_map, List.filterMap_map, kept,
    atom?_filter (fun _ => rfl), Node.atoms]

end Trees

section Groups

variable {change : Node → Node}

/-- The sections of these groups. -/
def draftGroups (root : String) (groups : List Group) : Draft (List Section) :=
  .all (groups.map fun group =>
    (draftStatements root group.nodes).bind fun statements => .pure ⟨group.label, statements⟩)

theorem draftGroups_append (root : String) (first second : List Group) :
    draftGroups root (first ++ second) = (draftGroups root first).bind fun sections =>
      (draftGroups root second).bind fun more => .pure (sections ++ more) := by
  rw [draftGroups, List.map_append]
  exact Draft.all_append _ _

theorem draftGroups_map {root : String} {groups : List Group}
    (same : ∀ child ∈ groups.flatMap Group.nodes,
      draftStatement root (change child) = draftStatement root child) :
    draftGroups root (groups.map (Group.map change)) = draftGroups root groups := by
  rw [draftGroups, List.map_map]
  refine congrArg Draft.all (List.map_congr_left fun group member => ?_)
  have statements : (group.nodes.map change).map (draftStatement root) =
      group.nodes.map (draftStatement root) := by
    rw [List.map_map]
    exact List.map_congr_left fun child inside =>
      same child (List.mem_flatMap.mpr ⟨group, member, inside⟩)
  simp only [Function.comp_apply, Group.map, draftStatements, statements]

end Groups

section Kinds

theorem of?_eq_unknown {parent : Option String} {kind : String}
    (withheld : isWithheld parent kind = true) : GroupKind.of? kind = some .unknown := by
  rw [isWithheld, Bool.or_eq_true, Bool.and_eq_true] at withheld
  obtain provenance | ⟨net, -⟩ := withheld
  · have all : ∀ kind ∈ Rule.provenanceKinds, GroupKind.of? kind = some .unknown := by decide
    exact all kind (List.contains_iff_mem.mp provenance)
  · rw [beq_iff_eq.mp net]
    rfl

theorem isWithheld_layer (parent : Option String) : isWithheld parent "layer" = false := rfl

theorem isWithheld_of_group {parent : Option String} {child : Node} {kind : GroupKind}
    (own : GroupKind.of? child.kind = some kind) (other : kind ≠ .unknown) :
    isWithheld parent child.kind = false := by
  cases withheld : isWithheld parent child.kind with
  | false => rfl
  | true =>
    rw [of?_eq_unknown withheld] at own
    exact absurd (Option.some.inj own).symm other

end Kinds

section Emptied

theorem child?_emptied (footprint : Node) (kind : String) :
    (emptied footprint).child? kind =
      (footprint.child? kind).map (emptiedChild footprint.kind) := by
  rw [Node.child?, nodes_emptied, List.find?_map]
  rfl

theorem firstAtom?_emptied (node : Node) : (emptied node).firstAtom? = node.firstAtom? := by
  obtain ⟨kind, items⟩ := node
  match items with
  | [] => rfl
  | .atom _ :: _ => rfl
  | .node _ _ :: _ => rfl

theorem emptiedChild_eq {root : String} {child : Node}
    (kept : isWithheld (some root) child.kind = false) :
    emptiedChild root child = emptied child := by
  rw [emptiedChild, kept]
  rfl

theorem layer_emptied (node : Node) :
    ((emptied node).child? "layer").bind Node.firstAtom? =
      (node.child? "layer").bind Node.firstAtom? := by
  rw [child?_emptied]
  cases found : node.child? "layer" with
  | none => rfl
  | some layer =>
    have kind : layer.kind = "layer" := by simpa using List.find?_some found
    have kept : isWithheld (some node.kind) layer.kind = false := by rw [kind]; rfl
    rw [Option.map_some, emptiedChild_eq kept]
    exact firstAtom?_emptied layer

theorem drawingLayer_emptied {root : String} {drawing : Node}
    (own : GroupKind.of? drawing.kind = some .drawings) :
    drawingLayer (emptiedChild root drawing) = drawingLayer drawing := by
  rw [emptiedChild_eq (isWithheld_of_group own (by decide)), drawingLayer, layer_emptied]
  rfl

theorem draftStatement_emptied (root : String) (child : Node) :
    draftStatement root (emptiedChild root child) = draftStatement root child := by
  have same : Writer.write (some root) (emptiedChild root child) =
      Writer.write (some root) child := Writer.writeItem_emptied (some root) child.item
  rw [draftStatement, draftStatement, same]
  rfl

theorem classify_emptied (footprint : Node) :
    classify (emptied footprint) =
      (classify footprint).map (Group.map (emptiedChild footprint.kind)) := by
  rw [classify, classify, List.map_flatMap]
  refine congrArg (List.flatMap · GroupKind.all) (funext fun kind => ?_)
  rw [nodes_emptied, List.filter_map]
  refine groupOf_map kind fun drawings drawing member => drawingLayer_emptied ?_
  subst drawings
  exact beq_iff_eq.mp (List.mem_filter.mp member).2

theorem draftBody_emptied (footprint : Node) :
    draftBody (emptied footprint) = draftBody footprint := by
  have layer : draftLayer (emptied footprint) = draftLayer footprint := by
    unfold draftLayer
    rw [child?_emptied]
    cases footprint.child? "layer" with
    | none => rfl
    | some layer => exact draftStatement_emptied footprint.kind layer
  have sections : draftSections (emptied footprint) = draftSections footprint := by
    change draftGroups footprint.kind (classify (emptied footprint)) = _
    rw [classify_emptied]
    exact draftGroups_map fun child _ => draftStatement_emptied footprint.kind child
  rw [draftBody, draftBody, layer, sections]

theorem header_emptied (footprint : Node) : header (emptied footprint) = header footprint := by
  rw [header, header, atoms_emptied]
  rfl

theorem sideOf_emptied (footprint : Node) : sideOf (emptied footprint) = sideOf footprint := by
  rw [sideOf, sideOf, layer_emptied]

theorem convert_emptied (config : Config) (footprint : Node) :
    convert config (emptied footprint) = convert config footprint := by
  unfold convert
  rw [draftBody_emptied, header_emptied, sideOf_emptied]
  rfl

end Emptied

section Pruned

theorem child?_pruned {footprint : Node} {kind : String}
    (kept : isWithheld (some footprint.kind) kind = false) :
    (pruned footprint).child? kind = (footprint.child? kind).map pruned := by
  rw [Node.child?, nodes_pruned, List.find?_map, List.find?_filter]
  refine congrArg (Option.map pruned) (congrArg (List.find? · footprint.nodes) (funext fun child => ?_))
  cases own : child.kind == kind with
  | false => simp [pruned, own]
  | true =>
    rw [beq_iff_eq] at own
    simp [pruned, own, kept]

/-- The visit finds nothing wrong with a node that declares a layer. -/
def DeclaresLayer (node : Node) : Prop :=
  ∀ layer ∈ node.child? "layer", ∃ text rest, layer.items = .atom text :: rest

theorem layer_pruned {node : Node} (declares : DeclaresLayer node) :
    ((pruned node).child? "layer").bind Node.firstAtom? =
      (node.child? "layer").bind Node.firstAtom? := by
  rw [child?_pruned (isWithheld_layer _)]
  cases found : node.child? "layer" with
  | none => rfl
  | some layer =>
    obtain ⟨text, rest, items⟩ := declares layer found
    obtain ⟨kind, own⟩ := layer
    cases items
    rfl

variable {parent : Option String}

/-- Nothing that is visited is misshapen. -/
def IsSound (parent : Option String) (item : Item) : Prop :=
  (Writer.visits parent item).findSome? Visit.misshapen? = none

theorem findSome?_visitsAll {kind : String} {items : List Item}
    (sound : (Writer.visitsAll kind items).findSome? Visit.misshapen? = none) :
    ∀ item ∈ items, IsSound (some kind) item := by
  induction items with
  | nil => exact nofun
  | cons item rest ih =>
    rw [Writer.visitsAll, List.findSome?_append, Option.or_eq_none_iff] at sound
    exact List.forall_mem_cons.mpr ⟨sound.1, ih sound.2⟩

theorem IsSound.node {node : Node} (sound : IsSound parent node.item)
    (kept : isWithheld parent node.kind = false) :
    Visit.misshapen? ⟨parent, node⟩ = none ∧
      ∀ item ∈ node.items, IsSound (some node.kind) item := by
  have visited : Writer.visits parent node.item =
      ⟨parent, node⟩ :: Writer.visitsAll node.kind node.items := by
    rw [Node.item, Writer.visits, kept]
    rfl
  rw [IsSound, visited, List.findSome?_cons] at sound
  cases own : Visit.misshapen? ⟨parent, node⟩ with
  | some misshapen =>
    rw [own] at sound
    cases sound
  | none =>
    rw [own] at sound
    exact ⟨rfl, findSome?_visitsAll sound⟩

theorem IsSound.layer {layer : Node} (sound : IsSound parent layer.item)
    (isLayer : layer.kind = "layer") : ∃ text rest, layer.items = .atom text :: rest := by
  obtain ⟨kind, items⟩ := layer
  cases isLayer
  exact Visit.misshapen?_eq_none.mp (sound.node rfl).1 .layerName rfl

theorem IsSound.declaresLayer {node : Node} (sound : IsSound parent node.item)
    (kept : isWithheld parent node.kind = false) : DeclaresLayer node := by
  intro layer found
  obtain ⟨item, member, own⟩ := List.mem_filterMap.mp (List.mem_of_find?_eq_some found)
  have inside := (sound.node kept).2 item member
  cases item with
  | atom => cases own
  | node kind items =>
    cases own
    exact IsSound.layer inside (by simpa using List.find?_some found)

theorem draftStatement_pruned {root : String} {child : Node}
    (sound : IsSound (some root) child.item) :
    draftStatement root (pruned child) = draftStatement root child := by
  have written : (Writer.writeItem (some root) child.item).failure? = none :=
    (Writer.stops_item (some root) child.item).trans sound
  have same : Writer.write (some root) (pruned child) = Writer.write (some root) child := by
    cases outcome : (Writer.writeItem (some root) child.item).outcome with
    | error misshapen => simp [Draft.failure?, outcome] at written
    | ok fragments => exact Writer.prunes_item (some root) child.item fragments outcome
  rw [draftStatement, draftStatement, same]
  rfl

end Pruned

section Sections

theorem mem_writtenChildren {footprint child : Node} {kind : GroupKind}
    (member : child ∈ childrenOf kind footprint) : child ∈ writtenChildren footprint := by
  obtain ⟨group, inside, own⟩ := List.mem_flatMap.mp (mem_groupOf.mpr member)
  have known : kind ∈ GroupKind.all := by cases kind <;> decide
  exact List.mem_append_right _ (List.mem_flatMap.mpr
    ⟨group, List.mem_flatMap.mpr ⟨kind, known, inside⟩, own⟩)

theorem childrenOf_pruned (kind : GroupKind) (footprint : Node) :
    childrenOf kind (pruned footprint) = ((childrenOf kind footprint).filter fun child =>
      !isWithheld (some footprint.kind) child.kind).map pruned := by
  rw [childrenOf, nodes_pruned, List.filter_map, childrenOf, List.filter_filter, List.filter_filter]
  refine congrArg _ (List.filter_congr fun child _ => ?_)
  exact Bool.and_comm _ _

theorem childrenOf_pruned_kept {kind : GroupKind} (other : kind ≠ .unknown) (footprint : Node) :
    childrenOf kind (pruned footprint) = (childrenOf kind footprint).map pruned := by
  rw [childrenOf_pruned, List.filter_eq_self.mpr fun child member => ?_]
  have own : GroupKind.of? child.kind = some kind := beq_iff_eq.mp (List.mem_filter.mp member).2
  rw [isWithheld_of_group own other]
  rfl

variable {footprint : Node}

/-- Nothing that is visited in the footprint is misshapen. -/
def AllSound (footprint : Node) : Prop :=
  ∀ child ∈ writtenChildren footprint, IsSound (some footprint.kind) child.item

theorem draftGroups_pruned_kept (sound : AllSound footprint) {kind : GroupKind}
    (other : kind ≠ .unknown) :
    draftGroups footprint.kind (groupOf kind (childrenOf kind (pruned footprint))) =
      draftGroups footprint.kind (groupOf kind (childrenOf kind footprint)) := by
  have kept : ∀ child ∈ childrenOf kind footprint,
      isWithheld (some footprint.kind) child.kind = false := fun child member =>
    isWithheld_of_group (beq_iff_eq.mp (List.mem_filter.mp member).2) other
  have layers : ∀ drawing ∈ childrenOf kind footprint,
      drawingLayer (pruned drawing) = drawingLayer drawing := by
    intro drawing member
    rw [drawingLayer, layer_pruned]
    · rfl
    · exact (sound drawing (mem_writtenChildren member)).declaresLayer (kept drawing member)
  rw [childrenOf_pruned_kept other, groupOf_map kind fun _ => layers]
  refine draftGroups_map fun child member => draftStatement_pruned ?_
  exact sound child (mem_writtenChildren (mem_groupOf.mp member))

theorem draftStatements_cons (root : String) (child : Node) (rest : List Node) :
    draftStatements root (child :: rest) = (draftStatement root child).bind fun statement =>
      (draftStatements root rest).bind fun statements => .pure (statement.toList ++ statements) := by
  have together (statement : Option Statement) (others : List (Option Statement)) :
      (statement :: others).filterMap id = statement.toList ++ others.filterMap id := by
    cases statement <;> rfl
  simp only [draftStatements, List.map_cons, Draft.all, Draft.bind_assoc, Draft.pure_bind, together]

theorem draftStatements_pruned {root : String} {children : List Node}
    (sound : ∀ child ∈ children, IsSound (some root) child.item) :
    draftStatements root ((children.filter fun child =>
        !isWithheld (some root) child.kind).map pruned) = draftStatements root children := by
  induction children with
  | nil => rfl
  | cons child rest ih =>
    obtain ⟨own, others⟩ := List.forall_mem_cons.mp sound
    rw [draftStatements_cons, ← ih others, List.filter_cons]
    cases withheld : isWithheld (some root) child.kind with
    | false =>
      rw [Bool.not_false, if_pos rfl, List.map_cons, draftStatements_cons, draftStatement_pruned own]
    | true =>
      have skip : (Rule.select (some root) child.kind).disposition = .skip :=
        beq_iff_eq.mp ((Writer.isWithheld_eq (some root) child.kind).symm.trans withheld)
      rw [draftStatement_skip skip]
      simp

/-- The groups after the unknown children. -/
def laterGroups (footprint : Node) : List Group :=
  [.pads, .drawings, .zones, .models, .properties].flatMap (groupsOf · footprint)

theorem classify_eq (footprint : Node) :
    classify footprint =
      groupsOf .wellKnown footprint ++ (groupsOf .unknown footprint ++ laterGroups footprint) := rfl

theorem laterGroups_pruned (sound : AllSound footprint) :
    draftGroups footprint.kind (laterGroups (pruned footprint)) =
      draftGroups footprint.kind (laterGroups footprint) := by
  have each : ∀ kinds : List GroupKind, .unknown ∉ kinds →
      draftGroups footprint.kind (kinds.flatMap (groupsOf · (pruned footprint))) =
        draftGroups footprint.kind (kinds.flatMap (groupsOf · footprint)) := by
    intro kinds others
    induction kinds with
    | nil => rfl
    | cons kind rest ih =>
      obtain ⟨apart, more⟩ := not_or.mp (mt List.mem_cons.mpr others)
      have own : draftGroups footprint.kind (groupsOf kind (pruned footprint)) =
          draftGroups footprint.kind (groupsOf kind footprint) :=
        draftGroups_pruned_kept sound (Ne.symm apart)
      rw [List.flatMap_cons, List.flatMap_cons, draftGroups_append, draftGroups_append, own, ih more]
  exact each _ (by decide)

/-- Either the unknown children leave the same section behind, or nothing was under its heading. -/
theorem unknown_pruned (sound : AllSound footprint) :
    draftGroups footprint.kind (groupsOf .unknown (pruned footprint)) =
        draftGroups footprint.kind (groupsOf .unknown footprint) ∨
      draftGroups footprint.kind (groupsOf .unknown footprint) =
          .pure [⟨GroupKind.unknown.label, []⟩] ∧
        draftGroups footprint.kind (groupsOf .unknown (pruned footprint)) = .pure [] := by
  have statements := draftStatements_pruned fun child member =>
    sound child (@mem_writtenChildren footprint child .unknown member)
  rw [← childrenOf_pruned] at statements
  unfold groupsOf
  cases children : childrenOf .unknown footprint with
  | nil =>
    rw [childrenOf_pruned, children]
    exact .inl rfl
  | cons child rest =>
    rw [children] at statements
    cases left : childrenOf .unknown (pruned footprint) with
    | nil =>
      rw [left] at statements
      refine .inr ⟨?_, rfl⟩
      change ((draftStatements footprint.kind (child :: rest)).bind _).bind _ = _
      rw [← statements]
      rfl
    | cons first others =>
      rw [left] at statements
      refine .inl ?_
      change ((draftStatements footprint.kind (first :: others)).bind _).bind _ =
        ((draftStatements footprint.kind (child :: rest)).bind _).bind _
      rw [statements]

/-- The sections are the same, or a heading with nothing under it is gone. -/
theorem draftSections_pruned (sound : AllSound footprint) :
    draftSections (pruned footprint) = draftSections footprint ∨
      draftSections footprint = ((draftGroups footprint.kind (groupsOf .wellKnown footprint)).bind
        fun front => (draftGroups footprint.kind (laterGroups footprint)).bind
          fun back => .pure (front ++ ⟨GroupKind.unknown.label, []⟩ :: back)) ∧
      draftSections (pruned footprint) =
        ((draftGroups footprint.kind (groupsOf .wellKnown footprint)).bind
          fun front => (draftGroups footprint.kind (laterGroups footprint)).bind
            fun back => .pure (front ++ back)) := by
  have split (f : Node) : draftSections f =
      (draftGroups f.kind (groupsOf .wellKnown f)).bind fun front =>
        (draftGroups f.kind (groupsOf .unknown f)).bind fun unknown =>
          (draftGroups f.kind (laterGroups f)).bind fun back => .pure (front ++ (unknown ++ back)) := by
    change draftGroups f.kind (classify f) = _
    simp only [classify_eq, draftGroups_append, Draft.bind_assoc, Draft.pure_bind]
  have wellKnown : draftGroups footprint.kind (groupsOf .wellKnown (pruned footprint)) =
      draftGroups footprint.kind (groupsOf .wellKnown footprint) :=
    draftGroups_pruned_kept sound (by decide)
  have whole := split (pruned footprint)
  change _ = (draftGroups footprint.kind _).bind fun front => (draftGroups footprint.kind _).bind
    fun unknown => (draftGroups footprint.kind _).bind fun back => _ at whole
  rw [wellKnown, laterGroups_pruned sound] at whole
  obtain same | ⟨bare, gone⟩ := unknown_pruned sound
  · rw [whole, same, split footprint]
    exact .inl rfl
  · rw [whole, split footprint, bare, gone]
    refine .inr ⟨?_, ?_⟩
    · simp only [Draft.pure_bind, List.singleton_append]
    · simp only [Draft.pure_bind, List.nil_append]

end Sections

section Readable

theorem isOneLine_wellKnown {front : List Section}
    (ok : (draftGroups footprint.kind (groupsOf .wellKnown footprint)).outcome = .ok front) :
    ∀ part ∈ front, isOneLine part.label.toList = true := by
  intro part member
  have known : part.label ∈ (groupsOf .wellKnown footprint).map Group.label := by
    rw [← labels_draftSections ok]
    exact List.mem_map_of_mem member
  obtain ⟨group, inside, same⟩ := List.mem_map.mp known
  rw [← same, label_groupOf (by decide) inside]
  decide

/-- The statements before a heading can be read if those of the whole module can. -/
theorem isReadable_front {layer : Option Statement} {front back : List Section}
    (ok : (draftBody footprint).outcome = .ok (layer, front ++ back))
    (oneLine : ∀ part ∈ front, isOneLine part.label.toList = true) (designator : String)
    (side : Side) (nets : List String) :
    Module.IsReadable ⟨designator, side, nets, header footprint, layer, front⟩ := by
  have guarded := ((gathers_writes footprint.kind).draftBody ok).1
  refine ⟨guarded_header footprint, oneLine, fun statement member => guarded statement ?_⟩
  rw [List.flatMap_append, ← List.append_assoc]
  exact List.mem_append_left _ member

end Readable

section Conversion

variable {config : Config} {footprint : Node} {conversion : Conversion}

theorem allSound_of_ok {body : Option Statement × List Section}
    (ok : (draftBody footprint).outcome = .ok body) : AllSound footprint := by
  have none : (draftBody footprint).failure? = none := by rw [Draft.failure?, ok]
  rw [failure?_draftBody, visited, findSome?_flatMap, List.findSome?_eq_none_iff] at none
  exact none

theorem layer_mem_writtenChildren {layer : Node} (found : layer ∈ footprint.child? "layer") :
    layer ∈ writtenChildren footprint :=
  List.mem_append_left _ (Option.mem_toList.mpr found)

theorem draftLayer_pruned (sound : AllSound footprint) :
    draftLayer (pruned footprint) = draftLayer footprint := by
  unfold draftLayer
  rw [child?_pruned (isWithheld_layer _)]
  cases found : footprint.child? "layer" with
  | none => rfl
  | some layer => exact draftStatement_pruned (sound layer (layer_mem_writtenChildren found))

theorem sideOf_pruned (sound : AllSound footprint) : sideOf (pruned footprint) = sideOf footprint := by
  have declares : DeclaresLayer footprint := fun layer found =>
    (sound layer (layer_mem_writtenChildren found)).layer (by simpa using List.find?_some found)
  rw [sideOf, sideOf, layer_pruned declares]

theorem header_pruned (footprint : Node) : header (pruned footprint) = header footprint := by
  rw [header, header, atoms_pruned]
  rfl

theorem draftBody_pruned {layer : Option Statement} {sections : List Section}
    (ok : (draftBody footprint).outcome = .ok (layer, sections)) :
    (draftBody (pruned footprint)).pads = (draftBody footprint).pads ∧
      ((draftBody (pruned footprint)).outcome = .ok (layer, sections) ∨
        ∃ front back, sections = front ++ ⟨GroupKind.unknown.label, []⟩ :: back ∧
          (∀ designator side nets,
            Module.IsReadable ⟨designator, side, nets, header footprint, layer, front⟩) ∧
          (draftBody (pruned footprint)).outcome = .ok (layer, front ++ back)) := by
  have sound := allSound_of_ok ok
  obtain ⟨okLayer, okSections⟩ := draftBody_eq_ok.mp ok
  obtain same | ⟨headed, bare⟩ := draftSections_pruned sound
  · have body : draftBody (pruned footprint) = draftBody footprint := by
      rw [draftBody, draftBody, draftLayer_pruned sound, same]
    rw [body]
    exact ⟨rfl, .inl ok⟩
  · rw [headed] at okSections
    obtain ⟨front, okFront, okMore⟩ := Draft.bind_eq_ok.mp okSections
    obtain ⟨back, okBack, same⟩ := Draft.bind_pure_eq_ok.mp okMore
    subst same
    have okBare : (draftSections (pruned footprint)).outcome = .ok (front ++ back) := by
      rw [bare]
      exact Draft.bind_eq_ok.mpr ⟨front, okFront, Draft.bind_pure_eq_ok.mpr ⟨back, okBack, rfl⟩⟩
    refine ⟨?_, .inr ⟨front, back, rfl, isReadable_front ok (isOneLine_wellKnown okFront), ?_⟩⟩
    · rw [draftBody, draftBody, draftLayer_pruned sound, Draft.pads_bind okLayer,
        Draft.pads_bind okLayer, Draft.pads_bind_pure, Draft.pads_bind_pure, headed, bare,
        Draft.pads_bind okFront, Draft.pads_bind okFront, Draft.pads_bind_pure,
        Draft.pads_bind_pure]
    · rw [draftBody_eq_ok, draftLayer_pruned sound]
      exact ⟨okLayer, okBare⟩

/-- What is left of a footprint is converted into a module that is placed in the same way. -/
theorem convert_pruned (converted : convert config footprint = .ok conversion) :
    ∃ bare, convert config (pruned footprint) = .ok bare ∧
      bare.netMap = conversion.netMap ∧ bare.written.side = conversion.written.side ∧
      ∀ defaults placements, (load bare defaults).map (renderAll · placements) =
        (load conversion defaults).map (renderAll · placements) := by
  obtain ⟨root, layer, sections, ok, rfl⟩ := convert_eq_ok.mp converted
  obtain ⟨pads, body⟩ := draftBody_pruned ok
  have namer : namerOf config (pruned footprint) = namerOf config footprint := by
    rw [namerOf, namerOf, pads]
  have side := sideOf_pruned (allSound_of_ok ok)
  obtain okBare | ⟨front, back, rfl, readable, okBare⟩ := body
  · refine ⟨_, convert_eq_ok.mpr ⟨root, layer, sections, okBare, rfl⟩, ?_, side, ?_⟩
    · rw [namer]
      rfl
    · intro defaults placements
      rw [namer, side, header_pruned]
  · refine ⟨_, convert_eq_ok.mpr ⟨root, layer, front ++ back, okBare, rfl⟩, ?_, side, ?_⟩
    · rw [namer]
      rfl
    · intro defaults placements
      rw [namer, side, header_pruned]
      have like := isLike_withHeading (namerOf config footprint).netOf
        (m := ⟨config.designator, sideOf footprint, (namerOf config footprint).paramNames,
          header footprint, layer, []⟩) (readable _ _ _) back
      exact (Preview.render_like like defaults placements).symm

/-- Nodes that tell where a file came from, and the nets that pads had in it, can hold anything: the
conversion has the same result, or fails in the same way. Without them a footprint that is converted
still is, for the same nets and on the same side, and is placed with the same texts. -/
theorem convert_withheld (config : Config) (footprint : Node) :
    (∀ other, emptied other = emptied footprint →
      convert config other = convert config footprint) ∧
    ∀ conversion, convert config footprint = .ok conversion →
      ∃ bare, convert config (pruned footprint) = .ok bare ∧
        bare.netMap = conversion.netMap ∧ bare.written.side = conversion.written.side ∧
        ∀ defaults placements, (load bare defaults).map (renderAll · placements) =
          (load conversion defaults).map (renderAll · placements) := by
  refine ⟨fun other same => ?_, fun conversion converted => convert_pruned converted⟩
  rw [← convert_emptied config other, same, convert_emptied]

/-- A footprint that holds these items where they are withheld: at the top, in a pad, and in a drawing
that makes the module run as a script. -/
def tracedFootprint (items : List Item) : Node :=
  ⟨"footprint", [.atom "a", .node "group" items, .node "pad" [.atom "1", .node "net" items],
    .node "fp_line" [.node "uuid" items, .node "layer" [.atom "\"b\nfp.push('c')\""]]]⟩

def untracedFootprint : Node :=
  ⟨"footprint", [.atom "a", .node "pad" [.atom "1"],
    .node "fp_line" [.node "layer" [.atom "\"b\nfp.push('c')\""]]]⟩

theorem convert_withheld_tracedFootprint :
    convert {} (tracedFootprint [.node "pad" []]) = convert {} (tracedFootprint []) ∧
      ∃ conversion, convert {} (tracedFootprint []) = .ok conversion ∧
        conversion.written.isEnclosed = false ∧
        ∃ bare, convert {} untracedFootprint = .ok bare ∧
          bare.netMap = conversion.netMap ∧ bare.written.side = conversion.written.side ∧
          ∀ defaults placements, (load bare defaults).map (renderAll · placements) =
            (load conversion defaults).map (renderAll · placements) := by
  have groups : classify (tracedFootprint []) =
      [⟨.unknown, "Unknown", [⟨"group", []⟩]⟩,
        ⟨.pads, "Pads", [⟨"pad", [.atom "1", .node "net" []]⟩]⟩,
        ⟨.drawings, "Drawings on b\nfp.push('c')",
          [⟨"fp_line", [.node "uuid" [], .node "layer" [.atom "\"b\nfp.push('c')\""]]⟩]⟩] := by cbv
  obtain ⟨layer, sections, body, stray⟩ : ∃ layer sections,
      (draftBody (tracedFootprint [])).outcome = .ok (layer, sections) ∧
        sections.all (·.overflow.isEmpty) = false := by
    rw [draftBody, draftSections, groups]
    exact ⟨_, _, rfl, rfl⟩
  obtain ⟨conversion, converted, written⟩ : ∃ conversion,
      convert {} (tracedFootprint []) = .ok conversion ∧
        conversion.written.isEnclosed = false :=
    ⟨_, convert_eq_ok.mpr ⟨.inl rfl, layer, sections, body, rfl⟩, stray⟩
  obtain ⟨filled, bare⟩ := convert_withheld {} (tracedFootprint [])
  exact ⟨filled (tracedFootprint [.node "pad" []]) rfl, conversion, converted, written,
    bare conversion converted⟩

end Conversion

end FootprintTemplate
