import FootprintTemplate.Proofs.Writer.Misshapen

/-! Nodes that are withheld. What such a node holds makes no difference to what is written, nor does
it whether it is there. -/
namespace FootprintTemplate.Writer

open Sexpr (Item Node)

section Trees

mutual
/-- The item with nothing in its nodes that are withheld. -/
def emptied (parent : Option String) : Item → Item
  | .atom text => .atom text
  | .node kind items =>
    .node kind (if isWithheld parent kind then [] else emptiedAll kind items)

def emptiedAll (kind : String) : List Item → List Item
  | [] => []
  | item :: rest => emptied (some kind) item :: emptiedAll kind rest
end

def isWithheldItem (kind : String) : Item → Bool
  | .atom _ => false
  | .node inner _ => isWithheld (some kind) inner

mutual
/-- The item without the nodes inside it that are withheld. -/
def pruned : Item → Item
  | .atom text => .atom text
  | .node kind items => .node kind (prunedAll kind items)

def prunedAll (kind : String) : List Item → List Item
  | [] => []
  | item :: rest =>
    if isWithheldItem kind item then prunedAll kind rest else pruned item :: prunedAll kind rest
end

theorem emptiedAll_eq_map (kind : String) (items : List Item) :
    emptiedAll kind items = items.map (emptied (some kind)) := by
  induction items with
  | nil => rfl
  | cons item rest ih => rw [emptiedAll, ih]; rfl

theorem prunedAll_eq_map (kind : String) (items : List Item) :
    prunedAll kind items = (items.filter (!isWithheldItem kind ·)).map pruned := by
  induction items with
  | nil => rfl
  | cons item rest ih =>
    rw [prunedAll, ih, List.filter_cons]
    cases isWithheldItem kind item <;> rfl

theorem isDropped_partOf (kind : String) (item : Item) :
    (partOf kind item).isDropped kind = isWithheldItem kind item := by
  cases item with
  | atom => rfl
  | node inner => exact (isWithheld_eq (some kind) inner).symm

end Trees

section Outlines

/-- The part without what is inside a node. Its draft stays. -/
def Part.outline (part : Part) : Part :=
  { part with
    item := match part.item with
      | .atom text => .atom text
      | .node kind _ => .node kind [] }

theorem atom?_outline (part : Part) : part.outline.atom? = part.atom? := by
  obtain ⟨item, draft⟩ := part
  cases item <;> rfl

theorem isKind_outline (kind : String) (part : Part) :
    part.outline.isKind kind = part.isKind kind := by
  obtain ⟨item, draft⟩ := part
  cases item <;> rfl

theorem placed_outline (kind : String) (part : Part) :
    part.outline.placed kind = part.placed kind := by
  obtain ⟨item, draft⟩ := part
  cases item <;> rfl

theorem placedAll_outline (kind : String) (parts : List Part) :
    placedAll kind (parts.map Part.outline) = placedAll kind parts := by
  rw [placedAll, List.map_map]
  exact congrArg (fun place => Draft.concat (parts.map place)) (funext (placed_outline kind))

theorem atText_outline (kind x y : String) (delta : Option String) (flags : List Part) :
    atText kind x y delta (flags.map Part.outline) = atText kind x y delta flags := by
  simp only [atText, List.all_map, Function.comp_def, atom?_outline, placedAll_outline]

/-- No rule looks into the nodes among its items: their drafts are all that it takes. -/
theorem compose_outline (rule : Rule) (kind : String) (parts : List Part) :
    compose rule kind (parts.map Part.outline) = compose rule kind parts := by
  have number : Part.number? ∘ Part.outline = Part.number? :=
    funext fun part => by simp [Part.number?, atom?_outline]
  have atom : Part.atom? ∘ Part.outline = Part.atom? := funext atom?_outline
  have flag : (!isFlag ·) ∘ Part.outline = (!isFlag ·) :=
    funext fun part => by simp [isFlag, atom?_outline]
  have mirror : isMirror ∘ Part.outline = isMirror :=
    funext fun part => by simp [isMirror, atom?_outline]
  have justify : Part.isKind "justify" ∘ Part.outline = Part.isKind "justify" :=
    funext (isKind_outline "justify")
  cases rule with
  | pad =>
    cases parts with
    | nil => rfl
    | cons part rest =>
      obtain ⟨item, draft⟩ := part
      cases item with
      | node => rfl
      | atom => simp only [compose, writePad, List.map_cons, Part.outline, placedAll_outline]
  | layer =>
    cases parts with
    | nil => rfl
    | cons part rest =>
      obtain ⟨item, draft⟩ := part
      cases item with
      | node => rfl
      | atom => simp only [compose, writeLayer, List.map_cons, Part.outline, placedAll_outline]
  | xy => simp only [compose, writeXy, List.map_map, number]
  | layers => simp only [compose, writeLayers, List.mapM_map, atom]
  | «at» =>
    simp only [compose, writeAt, List.takeWhile_map, List.dropWhile_map, List.map_map, number, flag,
      atText_outline]
  | effects => simp only [compose, writeEffects, List.any_map, justify, placedAll_outline]
  | justify =>
    have other : (!isMirror ·) ∘ Part.outline = (!isMirror ·) :=
      funext fun part => by simp [isMirror, atom?_outline]
    simp only [compose, writeJustify, List.filter_map, List.any_map, mirror, other, placedAll_outline]
  | modelOffset | property | fallback => simp only [compose, writeGeneric, placedAll_outline]
  | padNet | skip => rfl

end Outlines

section Emptied

theorem outline_partOf_emptied {kind : String} {item : Item}
    (same : writeItem (some kind) (emptied (some kind) item) = writeItem (some kind) item) :
    (partOf kind (emptied (some kind) item)).outline = (partOf kind item).outline := by
  cases item with
  | atom => rfl
  | node inner items => exact congrArg (Part.mk (.node inner [])) same

theorem writeItem_emptied_node {parent : Option String} {kind : String} {items : List Item}
    (all : ∀ item ∈ items,
      writeItem (some kind) (emptied (some kind) item) = writeItem (some kind) item) :
    writeItem parent (emptied parent (.node kind items)) = writeItem parent (.node kind items) := by
  rw [emptied, writeItem_node, writeItem_node, isWithheld_eq]
  split
  · rename_i skip
    rw [beq_iff_eq] at skip
    generalize Rule.select parent kind = rule at skip
    cases rule <;> cases skip <;> rfl
  · rw [← compose_outline, ← compose_outline _ _ (items.map (partOf kind)), emptiedAll_eq_map]
    simp only [List.map_map]
    refine congrArg (compose _ kind) (List.map_congr_left fun item member => ?_)
    exact outline_partOf_emptied (all item member)

mutual
theorem writeItem_emptied (parent : Option String) (item : Item) :
    writeItem parent (emptied parent item) = writeItem parent item := by
  cases item with
  | atom => rfl
  | node kind items => exact writeItem_emptied_node (writeItem_emptiedAll kind items)

theorem writeItem_emptiedAll (kind : String) (items : List Item) :
    ∀ item ∈ items,
      writeItem (some kind) (emptied (some kind) item) = writeItem (some kind) item := by
  cases items with
  | nil => exact fun _ member => nomatch member
  | cons item rest =>
    exact List.forall_mem_cons.mpr
      ⟨writeItem_emptied (some kind) item, writeItem_emptiedAll kind rest⟩
end

end Emptied

section Pruned

variable {kind : String} {items : List Item}

theorem prunedAll_atoms (kind : String) (texts : List String) :
    prunedAll kind (texts.map .atom) = texts.map .atom := by
  induction texts with
  | nil => rfl
  | cons text rest ih => exact congrArg (_ :: ·) ih

theorem isMirrorWord_pruned (item : Item) : isMirrorWord (pruned item) = isMirrorWord item := by
  cases item <;> rfl

theorem isJustify_pruned (item : Item) : isJustify (pruned item) = isJustify item := by
  cases item <;> rfl

theorem any_prunedAll {test : Item → Bool} (same : ∀ item, test (pruned item) = test item)
    (kept : ∀ item, test item = true → isWithheldItem kind item = false) (items : List Item) :
    (prunedAll kind items).any test = items.any test := by
  rw [prunedAll_eq_map, List.any_map, List.any_filter]
  refine congrArg items.any (funext fun item => ?_)
  cases found : test item with
  | true => simp [same, found, kept item found]
  | false => simp [same, found]

theorem filter_prunedAll (kind : String) (items : List Item) :
    (prunedAll kind items).filter (!isMirrorWord ·) =
      prunedAll kind (items.filter (!isMirrorWord ·)) := by
  simp only [prunedAll_eq_map, List.filter_map, List.filter_filter, Function.comp_def,
    isMirrorWord_pruned, Bool.and_comm]

theorem Lays.pruned {rule : Rule} {layout : Layout} (lays : Lays kind rule items layout)
    (written : rule.disposition ≠ .skip) :
    Lays kind rule (prunedAll kind items) { layout with kids := prunedAll kind layout.kids } := by
  cases lays with
  | generic plain => exact .generic plain
  | unconnected empty => exact .unconnected empty
  | pad connected => exact .pad connected
  | xy numberX numberY => exact .xy numberX numberY
  | layer => exact .layer
  | @layers names =>
    rw [prunedAll_atoms]
    exact .layers
  | @«at» x y delta flags placement =>
    have whole : prunedAll kind (placementItems x y delta flags) = placementItems x y delta flags :=
      prunedAll_atoms kind (x :: y :: (delta.toList ++ flags))
    rw [whole, prunedAll_atoms]
    exact .at placement
  | effects =>
    have justify : (prunedAll kind items).any isJustify = items.any isJustify := by
      refine any_prunedAll isJustify_pruned (fun item found => ?_) items
      cases item with
      | atom => cases found
      | node inner =>
        rw [beq_iff_eq.mp (found : (inner == "justify") = true)]
        rfl
    rw [← justify]
    exact .effects
  | justify =>
    have mirror : (prunedAll kind items).any isMirrorWord = items.any isMirrorWord := by
      refine any_prunedAll isMirrorWord_pruned (fun item found => ?_) items
      cases item with
      | atom => rfl
      | node => cases found
    rw [← mirror, ← filter_prunedAll]
    exact .justify
  | dropped skip => exact absurd skip written

/-- Where the item can be written, what is left of it is written alike. -/
def Prunes (parent : Option String) (item : Item) : Prop :=
  ∀ fragments, (writeItem parent item).outcome = .ok fragments →
    writeItem parent (pruned item) = writeItem parent item

theorem placedAll_prunedAll (all : ∀ item ∈ items, Prunes (some kind) item)
    {fragments : List Template.Fragment}
    (ok : (placedAll kind (items.map (partOf kind))).outcome = .ok fragments) :
    placedAll kind ((prunedAll kind items).map (partOf kind)) =
      placedAll kind (items.map (partOf kind)) := by
  induction items generalizing fragments with
  | nil => rfl
  | cons item rest ih =>
    obtain ⟨first, others⟩ := List.forall_mem_cons.mp all
    rw [prunedAll]
    cases withheld : isWithheldItem kind item with
    | true =>
      have dropped := (isDropped_partOf kind item).trans withheld
      rw [placedAll_dropped dropped] at ok ⊢
      exact ih others ok
    | false =>
      have kept := (isDropped_partOf kind item).trans withheld
      have keptToo : (partOf kind (pruned item)).isDropped kind = false := by
        rw [isDropped_partOf]
        cases item <;> exact withheld
      obtain ⟨own, inner, okOwn, okRest, -⟩ := (placedAll_kept_eq_ok kept).mp ok
      rw [if_neg Bool.false_ne_true, placedAll_kept keptToo, placedAll_kept kept, first own okOwn,
        ih others okRest]

theorem prunes_node {parent : Option String} (all : ∀ item ∈ items, Prunes (some kind) item) :
    Prunes parent (.node kind items) := by
  intro fragments ok
  rw [writeItem_node] at ok
  rw [pruned, writeItem_node, writeItem_node]
  by_cases skip : (Rule.select parent kind).disposition = .skip
  · generalize Rule.select parent kind = rule at skip
    cases rule <;> cases skip <;> rfl
  · obtain ⟨layout, inner, lays, okInner, -⟩ := exists_layout ok
    have left := lays.pruned skip
    have kids := placedAll_prunedAll (fun item member => all item (lays.kids_subset member)) okInner
    rw [left.compose_eq, lays.compose_eq]
    simp only [Layout.draft, kids]

mutual
theorem prunes_item (parent : Option String) (item : Item) : Prunes parent item := by
  cases item with
  | atom => exact fun _ _ => rfl
  | node kind items => exact prunes_node (prunes_items kind items)

theorem prunes_items (kind : String) (items : List Item) :
    ∀ item ∈ items, Prunes (some kind) item := by
  cases items with
  | nil => exact fun _ member => nomatch member
  | cons item rest =>
    exact List.forall_mem_cons.mpr ⟨prunes_item (some kind) item, prunes_items kind rest⟩
end

end Pruned

end FootprintTemplate.Writer
