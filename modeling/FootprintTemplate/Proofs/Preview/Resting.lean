import FootprintTemplate.Proofs.Body
import FootprintTemplate.Proofs.Failure
import FootprintTemplate.Proofs.Group.Regrouping
import FootprintTemplate.Proofs.Preview.Rendered
import FootprintTemplate.Proofs.Writer.Settling

/-! Placed footprints that are read again. The children of a placed footprint are those of its source
that are shown, in the order in which they are written, and all of them are at rest. -/
namespace FootprintTemplate.Preview

open Sexpr (Item Node unquote quoted)
open Writer (AllSteady IsAtRest IsPlain IsPlainWord Rests Rule Stance isLeftOut keptItems padsOf
  padsOfAll placed visits)

section Children

variable {stance : Stance} {root : String} {child : Node}

def placedChild (stance : Stance) (root : String) (child : Node) : Node :=
  (placed stance).node (some root) child

theorem item_placedChild (stance : Stance) (root : String) (child : Node) :
    (placedChild stance root child).item = (placed stance).item (some root) child.item := by
  rw [Node.item, Node.item, Writer.Rewriting.item]
  rfl

theorem kind_placedChild (plain : IsPlain child.item) :
    (placedChild stance root child).kind = child.kind :=
  (Writer.isPlain_node.mp plain).1.cooked

theorem isLeftOut_of_isShown (shown : isShown root child = true) :
    isLeftOut (some root) child.item = false := by
  have emit : (Rule.select (some root) child.kind).disposition = .emit := beq_iff_eq.mp shown
  rw [Node.item, isLeftOut, emit]
  rfl

/-- The children that are shown, in the order of the module and as they are placed. -/
def shownChildren (stance : Stance) (footprint : Node) : List Node :=
  ((writtenChildren footprint).filter (isShown footprint.kind)).map
    (placedChild stance footprint.kind)

theorem mem_shownChildren {stance : Stance} {footprint child : Node} :
    child ∈ shownChildren stance footprint ↔ ∃ source ∈ writtenChildren footprint,
      isShown footprint.kind source = true ∧
        placedChild stance footprint.kind source = child := by
  simp only [shownChildren, List.mem_map, List.mem_filter, and_assoc]

theorem shownItems_eq (stance : Stance) (footprint : Node) :
    shownItems stance footprint.kind (writtenChildren footprint) =
      (shownChildren stance footprint).map Node.item := by
  rw [shownItems, shownChildren, List.map_map]
  exact List.map_congr_left fun child _ => (item_placedChild stance _ child).symm

variable {placement : Placement} {footprint : Node}

def placeNode (placement : Placement) : Node :=
  ⟨"at", [coordinateItem placement.x, coordinateItem placement.y, coordinateItem placement.r]⟩

theorem nodes_placedFootprint :
    (placedFootprint stance placement footprint).nodes =
      placeNode placement :: shownChildren stance footprint := by
  rw [Node.nodes, placedFootprint, shownItems_eq, List.filterMap_append, List.filterMap_map]
  simp [List.filterMap_map, Function.comp_def, Item.node?, Node.item, atItem, placeNode]

theorem atoms_placedFootprint :
    (placedFootprint stance placement footprint).atoms = footprint.atoms.map Writer.cooked := by
  rw [Node.atoms, placedFootprint, shownItems_eq, List.filterMap_append, List.filterMap_map]
  simp [Function.comp_def, Item.atom?, Node.item, atItem]

end Children

/-- A footprint that placing brings to rest: nothing in it is misshapen, its words are plain, its
numbers and names steady. -/
structure IsCalm (footprint : Node) : Prop where
  plain : IsPlain footprint.item
  steady : AllSteady (visited footprint)

section Calm

variable {stance : Stance} {placement : Placement} {footprint child : Node}

theorem IsCalm.plain_atom (calm : IsCalm footprint) {text : String}
    (member : text ∈ footprint.atoms) : IsPlainWord text :=
  Writer.isPlain_atom.mp ((Writer.isPlain_node.mp calm.plain).2 _ (atom_mem_items member))

theorem IsCalm.steady_child (calm : IsCalm footprint) (member : child ∈ writtenChildren footprint) :
    AllSteady (visits (some footprint.kind) child.item) :=
  fun visit inside => calm.steady visit (List.mem_flatMap.mpr ⟨child, member, inside⟩)

theorem IsCalm.plain_written (calm : IsCalm footprint) (member : child ∈ writtenChildren footprint) :
    IsPlain child.item :=
  (Writer.isPlain_node.mp calm.plain).2 _ (item_mem_items (mem_of_mem_writtenChildren member))

theorem IsCalm.rests (calm : IsCalm footprint) (upright : stance.IsUpright)
    (member : child ∈ writtenChildren footprint) (shown : isShown footprint.kind child = true) :
    Rests stance (some footprint.kind) child.item :=
  Writer.rests_item upright _ _ (calm.plain_written member) (calm.steady_child member)
    (isLeftOut_of_isShown shown)

theorem IsCalm.atRest (calm : IsCalm footprint) (upright : stance.IsUpright) :
    ∀ child ∈ shownChildren stance footprint, IsAtRest stance (some footprint.kind) child.item := by
  intro child member
  obtain ⟨source, written, shown, rfl⟩ := mem_shownChildren.mp member
  rw [item_placedChild]
  exact (calm.rests upright written shown).atRest

theorem IsCalm.kind_shown (calm : IsCalm footprint) (member : child ∈ writtenChildren footprint) :
    (placedChild stance footprint.kind child).kind = child.kind :=
  kind_placedChild (calm.plain_written member)

theorem IsCalm.isShown_shownChildren (calm : IsCalm footprint) :
    ∀ child ∈ shownChildren stance footprint, isShown footprint.kind child = true := by
  intro child member
  obtain ⟨source, written, shown, rfl⟩ := mem_shownChildren.mp member
  rw [isShown, calm.kind_shown written]
  exact shown

end Calm

section Layers

variable {stance : Stance} {parent : String}

theorem name_placedLayer (upright : stance.IsUpright) {layer : Node} (isLayer : layer.kind = "layer")
    (plain : IsPlain layer.item) (steady : AllSteady (visits (some parent) layer.item)) :
    (placedChild stance parent layer).firstAtom?.map unquote = layer.firstAtom?.map unquote := by
  obtain ⟨kind, items⟩ := layer
  subst isLayer
  obtain ⟨sound, own⟩ := steady ⟨some parent, ⟨"layer", items⟩⟩ List.mem_cons_self
  obtain ⟨text, rest, rfl⟩ := Writer.Visit.misshapen?_eq_none.mp sound .layerName rfl
  have word := Writer.isPlain_atom.mp ((Writer.isPlain_node.mp plain).2 (.atom text) (by simp))
  have isName := word.isName (own.names text (by rw [Writer.Visit.rule]; exact List.mem_cons_self))
  have items : (placedChild stance parent ⟨"layer", .atom text :: rest⟩).items =
      .atom (quoted (unquote text)) :: keptItems stance "layer" rest := by
    have placedItems := @Writer.placedItems_layer stance "layer" text rest
    rw [upright.flip, Writer.placedLayer_name isName] at placedItems
    exact placedItems
  rw [Node.firstAtom?, items, Node.firstAtom?]
  exact congrArg some (Sexpr.unquote_quoted _)

theorem child?_cons_node (kind : String) (child : Node) (items : List Item) (sought : String) :
    (Node.mk kind (child.item :: items)).child? sought =
      if child.kind == sought then some child else (Node.mk kind items).child? sought := by
  change List.find? _ (child :: (Node.mk kind items).nodes) = _
  rw [List.find?_cons]
  cases child.kind == sought <;> rfl

theorem child?_keptItems {kind : String} {items : List Item} (plain : ∀ item ∈ items, IsPlain item) :
    (Node.mk kind (keptItems stance kind items)).child? "layer" =
      ((Node.mk kind items).child? "layer").map (placedChild stance kind) := by
  induction items with
  | nil => rfl
  | cons item rest ih =>
    obtain ⟨own, others⟩ := List.forall_mem_cons.mp plain
    have ih := ih others
    rw [Writer.keptItems_eq] at ih ⊢
    cases item with
    | atom text => exact ih
    | node inner inside =>
      have source := child?_cons_node kind ⟨inner, inside⟩ rest "layer"
      rw [Node.item] at source
      rw [source, List.filter_cons]
      cases leftOut : isLeftOut (some kind) (.node inner inside) with
      | true =>
        have other : (inner == "layer") = false := by
          refine beq_false_of_ne ?_
          rintro rfl
          cases leftOut
        rw [other]
        exact ih
      | false =>
        have same : (placedChild stance kind ⟨inner, inside⟩).kind = inner := kind_placedChild own
        have placed := child?_cons_node kind (placedChild stance kind ⟨inner, inside⟩)
          ((rest.filter (!isLeftOut (some kind) ·)).map ((placed stance).item (some kind))) "layer"
        rw [same, item_placedChild] at placed
        refine placed.trans ?_
        rw [ih]
        cases inner == "layer" <;> rfl

theorem select_drawing {kind : String} (drawing : GroupKind.of? kind = some .drawings)
    (parent : String) : Rule.select (some parent) kind = .fallback := by
  have known := (GroupKind.kind_of_of? drawing).2.2 rfl
  simp only [GroupKind.drawingKinds, List.mem_cons, List.not_mem_nil, or_false] at known
  rcases known with rfl | rfl | rfl | rfl | rfl | rfl | rfl | rfl <;> rfl

theorem name_declaredLayer (upright : stance.IsUpright) {node other : Node}
    (declared : other.child? "layer" = (node.child? "layer").map (placedChild stance parent))
    (calm : ∀ layer ∈ node.child? "layer",
      IsPlain layer.item ∧ AllSteady (visits (some parent) layer.item)) :
    ((other.child? "layer").bind Node.firstAtom?).map unquote =
      ((node.child? "layer").bind Node.firstAtom?).map unquote := by
  rw [declared]
  cases found : node.child? "layer" with
  | none => rfl
  | some layer =>
    obtain ⟨plain, steady⟩ := calm layer found
    exact name_placedLayer upright (by simpa using List.find?_some found) plain steady

theorem visits_subset_visitsAll {kind : String} {items : List Item} {item : Item}
    (member : item ∈ items) : visits (some kind) item ⊆ Writer.visitsAll kind items := by
  induction items with
  | nil => cases member
  | cons first rest ih =>
    rw [Writer.visitsAll]
    rcases List.mem_cons.mp member with rfl | later
    · exact List.subset_append_left _ _
    · exact List.Subset.trans (ih later) (List.subset_append_right _ _)

theorem drawingLayer_placedChild (upright : stance.IsUpright) {child : Node}
    (drawing : GroupKind.of? child.kind = some .drawings) (plain : IsPlain child.item)
    (steady : AllSteady (visits (some parent) child.item)) :
    drawingLayer (placedChild stance parent child) = drawingLayer child := by
  obtain ⟨kind, items⟩ := child
  have rule : Rule.select (some parent) kind = .fallback := select_drawing drawing parent
  obtain ⟨word, plainItems⟩ := Writer.isPlain_node.mp plain
  have shape : placedChild stance parent ⟨kind, items⟩ = ⟨kind, keptItems stance kind items⟩ := by
    have arranged : Writer.placedItems stance (Rule.select (some parent) kind) kind
        ((placed stance).items kind items) = keptItems stance kind items := by
      rw [rule]
      exact Writer.placedItems_generic (by decide) items
    exact congr (congrArg Node.mk word.cooked) arranged
  have entered : Writer.isWithheld (some parent) kind = false := by
    rw [Writer.isWithheld_eq, rule]
    rfl
  rw [Node.item, visits, entered] at steady
  obtain ⟨-, inner⟩ := List.forall_mem_cons.mp steady
  have name := name_declaredLayer upright (child?_keptItems plainItems) fun layer found => by
    have inside := item_mem_items (List.mem_of_find?_eq_some found)
    exact ⟨plainItems _ inside, fun visit member => inner visit (visits_subset_visitsAll inside member)⟩
  rw [shape, drawingLayer, name]
  rfl

end Layers

section Order

variable {stance : Stance} {placement : Placement} {footprint : Node}

theorem writtenChildren_eq (footprint : Node) : writtenChildren footprint =
    (footprint.child? "layer").toList ++
      GroupKind.all.flatMap fun kind => gathered kind (childrenOf kind footprint) :=
  writtenChildren_groups footprint

theorem ofKind_gathered {kind : GroupKind} {child : Node}
    (member : child ∈ gathered kind (childrenOf kind footprint)) :
    GroupKind.of? child.kind = some kind :=
  beq_iff_eq.mp (List.mem_filter.mp (mem_gathered.mp member)).2

theorem filter_writtenChildren (kind : GroupKind) (footprint : Node) :
    (writtenChildren footprint).filter (GroupKind.of? ·.kind == some kind) =
      gathered kind (childrenOf kind footprint) := by
  have layer : (footprint.child? "layer").toList.filter (GroupKind.of? ·.kind == some kind) = [] := by
    refine List.filter_eq_nil_iff.mpr fun child member => ?_
    have isLayer : child.kind = "layer" := by
      simpa using List.find?_some (Option.mem_toList.mp member)
    rw [isLayer]
    exact Bool.false_ne_true
  have own (other : GroupKind) : (gathered other (childrenOf other footprint)).filter
      (GroupKind.of? ·.kind == some kind) =
        if other = kind then gathered kind (childrenOf kind footprint) else [] := by
    split
    · rename_i same
      subst same
      exact List.filter_eq_self.mpr fun child member => beq_iff_eq.mpr (ofKind_gathered member)
    · rename_i apart
      refine List.filter_eq_nil_iff.mpr fun child member isKind => apart ?_
      exact Option.some.inj ((ofKind_gathered member).symm.trans (beq_iff_eq.mp isKind))
  rw [writtenChildren_eq, List.filter_append, layer, List.nil_append, List.filter_flatMap]
  simp only [own]
  exact flatMap_ite_of_mem (by decide) kind.mem_all _

theorem mem_of_mem_gathered {kind : GroupKind} {child : Node}
    (member : child ∈ gathered kind (childrenOf kind footprint)) :
    child ∈ writtenChildren footprint := by
  rw [← filter_writtenChildren] at member
  exact (List.mem_filter.mp member).1

theorem mem_child?_layer {child : Node} (found : child ∈ footprint.child? "layer") :
    child ∈ writtenChildren footprint ∧ child.kind = "layer" :=
  ⟨List.mem_append_left _ (Option.mem_toList.mpr found), by simpa using List.find?_some found⟩

theorem isShown_layer {parent : String} {child : Node} (isLayer : child.kind = "layer") :
    isShown parent child = true := by
  rw [isShown, isLayer]
  rfl

variable (calm : IsCalm footprint)

include calm

theorem IsCalm.child?_placedFootprint :
    (placedFootprint stance placement footprint).child? "layer" =
      (footprint.child? "layer").map (placedChild stance footprint.kind) := by
  have first : (placedFootprint stance placement footprint).child? "layer" =
      (shownChildren stance footprint).find? (·.kind == "layer") := by
    rw [Node.child?, nodes_placedFootprint]
    rfl
  have grouped : ∀ child ∈ ((GroupKind.all.flatMap fun kind =>
      gathered kind (childrenOf kind footprint)).filter (isShown footprint.kind)).map
        (placedChild stance footprint.kind), ¬ (child.kind == "layer") = true := by
    intro child member isLayer
    obtain ⟨source, inside, rfl⟩ := List.mem_map.mp member
    obtain ⟨kind, -, own⟩ := List.mem_flatMap.mp (List.mem_filter.mp inside).1
    have written : source ∈ writtenChildren footprint := by
      rw [writtenChildren_eq]
      exact List.mem_append_right _ (List.mem_filter.mp inside).1
    have ofKind := ofKind_gathered own
    rw [calm.kind_shown written] at isLayer
    rw [beq_iff_eq.mp isLayer] at ofKind
    cases ofKind
  rw [first, shownChildren, writtenChildren_eq, List.filter_append, List.map_append,
    List.find?_append, List.find?_eq_none.mpr grouped, Option.or_none]
  cases found : footprint.child? "layer" with
  | none => rfl
  | some layer =>
    obtain ⟨written, isLayer⟩ := mem_child?_layer found
    have own : (placedChild stance footprint.kind layer).kind = "layer" :=
      (calm.kind_shown written).trans isLayer
    simp [isShown_layer isLayer, own]

/-- The groups of a placed footprint hold what those of its source show. -/
theorem IsCalm.childrenOf_placedFootprint (kind : GroupKind) :
    childrenOf kind (placedFootprint stance placement footprint) =
      ((gathered kind (childrenOf kind footprint)).filter (isShown footprint.kind)).map
        (placedChild stance footprint.kind) := by
  have place : (GroupKind.of? (placeNode placement).kind == some kind) = false := rfl
  have kinds : ∀ child ∈ (writtenChildren footprint).filter (isShown footprint.kind),
      (GroupKind.of? (placedChild stance footprint.kind child).kind == some kind) =
        (GroupKind.of? child.kind == some kind) := by
    intro child member
    rw [calm.kind_shown (List.mem_filter.mp member).1]
  rw [childrenOf, nodes_placedFootprint, List.filter_cons, if_neg (by rw [place]; decide),
    shownChildren, List.filter_map, ← filter_writtenChildren]
  exact congrArg _ ((List.filter_congr kinds).trans (List.filter_comm _ _ _))

theorem IsCalm.gathered_shown (upright : stance.IsUpright) (kind : GroupKind) :
    gathered kind (childrenOf kind (placedFootprint stance placement footprint)) =
      childrenOf kind (placedFootprint stance placement footprint) := by
  rw [calm.childrenOf_placedFootprint]
  by_cases drawings : kind = .drawings
  · subst drawings
    have shown : (gathered .drawings (childrenOf .drawings footprint)).filter
        (isShown footprint.kind) = gathered .drawings (childrenOf .drawings footprint) := by
      refine List.filter_eq_self.mpr fun child member => ?_
      rw [isShown, select_drawing (ofKind_gathered member)]
      rfl
    rw [shown, gathered_map fun _ drawing member => ?_, gathered_again]
    exact drawingLayer_placedChild upright (ofKind_gathered member)
      (calm.plain_written (mem_of_mem_gathered member))
      (calm.steady_child (mem_of_mem_gathered member))
  · rw [gathered_other drawings]

/-- Placing a footprint brings its children in order. -/
theorem IsCalm.writtenChildren_placedFootprint (upright : stance.IsUpright) :
    writtenChildren (placedFootprint stance placement footprint) =
      shownChildren stance footprint := by
  have layer : (footprint.child? "layer").toList.filter (isShown footprint.kind) =
      (footprint.child? "layer").toList := List.filter_eq_self.mpr fun child member =>
    isShown_layer (mem_child?_layer (Option.mem_toList.mp member)).2
  rw [shownChildren, writtenChildren_eq, writtenChildren_eq, List.filter_append, List.map_append,
    layer, calm.child?_placedFootprint, List.filter_flatMap, List.map_flatMap]
  refine congrArg₂ _ ?_ (List.flatMap_congr fun kind _ => ?_)
  · cases footprint.child? "layer" <;> rfl
  · rw [calm.gathered_shown upright, calm.childrenOf_placedFootprint]

end Order

section Again

variable {stance : Stance} {placement : Placement} {footprint : Node}

theorem kind_of_disabled {parent : Option String} {kind : String}
    (disabled : (Rule.select parent kind).disposition = .disabled) : kind = "property" := by
  refine Decidable.byContradiction fun other => ?_
  have apart : (Rule.select parent kind).disposition ≠ .disabled := by
    unfold Rule.select
    rw [if_neg (by simpa using other : ¬ (kind == "property") = true)]
    repeat' refine iteInduction (motive := (Rule.disposition · ≠ .disabled)) (fun _ => ?_) (fun _ => ?_)
    all_goals exact nofun
  exact apart disabled

/-- Children that are not shown have no pads, unless a property holds some. -/
theorem padsOf_hidden {root : String} {child : Node}
    (flat : child.kind = "property" → padsOfAll child.kind child.items = [])
    (hidden : isShown root child = false) : padsOf (some root) child.item = [] := by
  rw [Node.item, padsOf]
  cases disposition : (Rule.select (some root) child.kind).disposition with
  | emit =>
    rw [isShown, disposition] at hidden
    cases hidden
  | skip => rfl
  | disabled =>
    have property := kind_of_disabled disposition
    have other : child.kind ≠ "pad" := by
      rw [property]
      decide
    rw [Writer.ownPad?_eq_none other, flat property]
    rfl

variable (calm : IsCalm footprint)

include calm

theorem IsCalm.atoms : footprint.atoms.map Writer.cooked = footprint.atoms := by
  refine (List.map_congr_left fun text member => ?_).trans (List.map_id _)
  exact (calm.plain_atom member).cooked

theorem IsCalm.header_placedFootprint :
    header (placedFootprint stance placement footprint) = header footprint := by
  rw [header, atoms_placedFootprint, calm.atoms]
  rfl

variable (upright : stance.IsUpright)

include upright

theorem IsCalm.sideOf_placedFootprint :
    sideOf (placedFootprint stance placement footprint) = sideOf footprint := by
  have name := name_declaredLayer upright
    (@IsCalm.child?_placedFootprint stance placement footprint calm) fun layer found =>
      have written := (mem_child?_layer found).1
      ⟨calm.plain_written written, calm.steady_child written⟩
  have side (node : Node) : sideOf node =
      ((((node.child? "layer").bind Node.firstAtom?).map unquote).map Layer.side).getD .front := by
    rw [Option.map_map]
    rfl
  rw [side, side, name]

theorem IsCalm.forall_drawing_placedFootprint (property : String → Prop)
    (layers : ∀ drawing ∈ footprint.nodes, GroupKind.of? drawing.kind = some .drawings →
      property (drawingLayer drawing)) :
    ∀ drawing ∈ (placedFootprint stance placement footprint).nodes,
      GroupKind.of? drawing.kind = some .drawings → property (drawingLayer drawing) := by
  intro drawing member ofKind
  have inside : drawing ∈ childrenOf .drawings (placedFootprint stance placement footprint) :=
    List.mem_filter.mpr ⟨member, beq_iff_eq.mpr ofKind⟩
  rw [calm.childrenOf_placedFootprint] at inside
  obtain ⟨source, own, rfl⟩ := List.mem_map.mp inside
  have gathered := (List.mem_filter.mp own).1
  have written := mem_of_mem_gathered gathered
  have sourceKind := ofKind_gathered gathered
  rw [drawingLayer_placedChild upright sourceKind (calm.plain_written written)
    (calm.steady_child written)]
  exact layers source (mem_of_mem_writtenChildren written) sourceKind

theorem IsCalm.connectedPads_placedFootprint
    (flat : ∀ child ∈ footprint.nodes, child.kind = "property" →
      padsOfAll child.kind child.items = []) :
    connectedPads (placedFootprint stance placement footprint) = connectedPads footprint := by
  rw [connectedPads, calm.writtenChildren_placedFootprint upright, shownChildren,
    List.flatMap_map]
  refine flatMap_filter (fun child member shown => ?_) fun child member => ?_
  · rw [item_placedChild]
    exact (calm.rests upright member shown).pads
  · exact padsOf_hidden (flat child (mem_of_mem_writtenChildren member))

theorem IsCalm.isLexed_placedFootprint :
    Writer.IsLexed (placedFootprint stance placement footprint).item := by
  have coordinate (value : Number.Double) : Writer.IsLexed (coordinateItem value) := by
    rw [coordinateItem, Writer.isLexed_atom, String.toList_ofList]
    exact .bare (Number.isBare_placementStyle _)
  have place : Writer.IsLexed (atItem placement) :=
    Writer.isLexed_node.mpr ⟨.bare (by decide), by simp [coordinate]⟩
  obtain ⟨kind, -⟩ := Writer.isPlain_node.mp calm.plain
  refine Writer.isLexed_node.mpr ⟨kind.lexeme, List.forall_mem_append.mpr
    ⟨fun item member => ?_, List.forall_mem_cons.mpr ⟨place, fun item member => ?_⟩⟩⟩
  · obtain ⟨text, inside, rfl⟩ := List.mem_map.mp member
    have word := calm.plain_atom inside
    rw [word.cooked]
    exact Writer.isLexed_atom.mpr word.lexeme
  · rw [shownItems_eq] at member
    obtain ⟨child, shown, rfl⟩ := List.mem_map.mp member
    exact (calm.atRest upright child shown).lexed

theorem IsCalm.shownChildren_placedFootprint :
    shownChildren stance (placedFootprint stance placement footprint) =
      shownChildren stance footprint := by
  have again : ∀ child ∈ shownChildren stance footprint,
      placedChild stance footprint.kind child = child := by
    intro child member
    have same := (calm.atRest upright child member).again
      (isLeftOut_of_isShown (calm.isShown_shownChildren child member))
    rw [← item_placedChild] at same
    exact Option.some.inj (congrArg Item.node? same)
  have shown : (shownChildren stance footprint).filter (isShown footprint.kind) =
      shownChildren stance footprint := List.filter_eq_self.mpr calm.isShown_shownChildren
  rw [shownChildren, calm.writtenChildren_placedFootprint upright]
  change ((shownChildren stance footprint).filter (isShown footprint.kind)).map
    (placedChild stance footprint.kind) = _
  rw [shown]
  exact (List.map_congr_left again).trans (List.map_id _)

theorem IsCalm.placedChars_placedFootprint :
    placedChars stance placement (placedFootprint stance placement footprint) =
      placedChars stance placement footprint := by
  have kind : (placedFootprint stance placement footprint).kind = footprint.kind := rfl
  rw [placedChars, shownItems_eq, calm.shownChildren_placedFootprint upright, atoms_placedFootprint,
    calm.atoms, kind, placedChars, shownItems_eq]

end Again

end FootprintTemplate.Preview
