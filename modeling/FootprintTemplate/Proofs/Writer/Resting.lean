import FootprintTemplate.Proofs.Writer.Settled

/-! Trees at rest. Placing a tree leaves nothing in it that placing it once more would change. -/
namespace FootprintTemplate.Writer

open Number (Reprints)
open Sexpr (Item Node unquote quoted)
open Template (Fragment)

section Source

/-- The further rotation of a placement. -/
def rotation? : Rule → List Item → Option String
  | .at, _ :: _ :: .atom text :: _ => if Number.isNumber text then some text else none
  | _, _ => none

/-- The atoms that name a pad or layers. -/
def nameAtoms : Rule → List Item → List String
  | .pad, .atom text :: _ | .layer, .atom text :: _ => [text]
  | .layers, items => items.filterMap Item.atom?
  | _, _ => []

/-- X coordinates are printed again as they stand, rotations are whole, and names can be quoted. -/
structure IsSteady (rule : Rule) (items : List Item) : Prop where
  coordinate : ∀ x ∈ mirroredX? rule items, Reprints x
  rotation : ∀ delta ∈ rotation? rule items, (Number.valueOf delta.toList).isWhole = true
  names : ∀ text ∈ nameAtoms rule items, (unquote text).toList.getLast? ≠ some '\\'

instance (rule : Rule) (items : List Item) : Decidable (IsSteady rule items) :=
  decidable_of_iff ((∀ x ∈ (mirroredX? rule items).toList, Reprints x) ∧
      (∀ delta ∈ (rotation? rule items).toList, (Number.valueOf delta.toList).isWhole = true) ∧
      ∀ text ∈ nameAtoms rule items, (unquote text).toList.getLast? ≠ some '\\')
    (by simp only [Option.mem_toList]; exact
      ⟨fun all => ⟨all.1, all.2.1, all.2.2⟩, fun steady =>
        ⟨steady.coordinate, steady.rotation, steady.names⟩⟩)

theorem rotation?_placement {x y : String} {delta : Option String} {flags : List String}
    (placement : IsPlacement x y delta flags) :
    rotation? .at (placementItems x y delta flags) = delta := by
  cases delta with
  | some text => simp [rotation?, placementItems, placement.delta text rfl]
  | none =>
    cases flags with
    | nil => rfl
    | cons flag rest => simp [rotation?, placementItems, placement.flags flag rfl]

end Source

section Rest

/-- The item can be written, and a script can read what is written. -/
def WritesScript (parent : Option String) (item : Item) : Prop :=
  ∃ fragments, (writeItem parent item).outcome = .ok fragments ∧
    fragments.all Fragment.isScript = true

/-- An item that is placed as it stands, unless it is left out. -/
structure IsAtRest (stance : Stance) (parent : Option String) (item : Item) : Prop where
  lexed : IsLexed item
  again : isLeftOut parent item = false → (placed stance).item parent item = item
  writes : isLeftOut parent item = false → WritesScript parent item

/-- Placing the item brings it to rest and keeps its pads. -/
structure Rests (stance : Stance) (parent : Option String) (source : Item) : Prop where
  atRest : IsAtRest stance parent ((placed stance).item parent source)
  pads : padsOf parent ((placed stance).item parent source) = padsOf parent source

/-- Items of a node that is placed as it stands, and has the pads of these items of its source. -/
structure Settles (stance : Stance) (rule : Rule) (kind : String) (source items : List Item) :
    Prop where
  again : placedItems stance rule kind ((placed stance).items kind items) = items
  layout : ∃ layout, Lays kind rule items layout ∧
    (layout.head ++ layout.tail).all Fragment.isScript = true
  members : ∀ item ∈ items, IsAtRest stance (some kind) item
  own : ownPad? kind items = ownPad? kind source
  pads : padsOfAll kind items = padsOfAll kind source

variable {stance : Stance} {parent : Option String} {kind : String}

theorem IsAtRest.atom {text : String} (word : IsPlainWord text) :
    IsAtRest stance parent (.atom text) :=
  ⟨isLexed_atom.mpr word.lexeme, fun _ => placed_atom parent word, fun _ => ⟨_, rfl, rfl⟩⟩

theorem atRest_atoms {texts : List String} (words : ∀ text ∈ texts, IsPlainWord text) :
    ∀ item ∈ texts.map Item.atom, IsAtRest stance parent item := by
  intro item member
  obtain ⟨text, inside, rfl⟩ := List.mem_map.mp member
  exact .atom (words text inside)

theorem writes_placedAll {items : List Item}
    (writes : ∀ item ∈ items, isLeftOut (some kind) item = false → WritesScript (some kind) item) :
    ∃ inner, (placedAll kind (items.map (partOf kind))).outcome = .ok inner ∧
      inner.all Fragment.isScript = true := by
  induction items with
  | nil => exact ⟨[], rfl, rfl⟩
  | cons item rest ih =>
    obtain ⟨first, others⟩ := List.forall_mem_cons.mp writes
    obtain ⟨inner, okRest, script⟩ := ih others
    have same : (partOf kind item).isDropped kind = isLeftOut (some kind) item := by
      cases item <;> rfl
    cases leftOut : isLeftOut (some kind) item with
    | true => exact ⟨inner, by rw [placedAll_dropped (same.trans leftOut), okRest], script⟩
    | false =>
      obtain ⟨own, ok, ownScript⟩ := first leftOut
      refine ⟨_, (placedAll_kept_eq_ok (same.trans leftOut)).mpr ⟨own, inner, ok, okRest, rfl⟩, ?_⟩
      rw [List.all_append, List.all_cons, ownScript, script]
      rfl

theorem Settles.atRest {source items : List Item}
    (settles : Settles stance (Rule.select parent kind) kind source items)
    (word : IsPlainWord kind) : IsAtRest stance parent (.node kind items) := by
  refine ⟨isLexed_node.mpr ⟨word.lexeme, fun item member => (settles.members item member).lexed⟩,
    fun _ => ?_, fun _ => ?_⟩
  · rw [Rewriting.item]
    exact congr (congrArg Item.node word.cooked) settles.again
  · obtain ⟨layout, lays, script⟩ := settles.layout
    obtain ⟨inner, ok, innerScript⟩ := writes_placedAll fun item member =>
      (settles.members item (lays.kids_subset member)).writes
    refine ⟨layout.head ++ inner ++ layout.tail, ?_, ?_⟩
    · rw [writeItem_node, lays.compose_eq]
      exact Layout.draft_eq_ok.mpr ⟨inner, ok, rfl⟩
    · rw [List.all_append, Bool.and_eq_true] at script
      rw [List.all_append, List.all_append, script.1, script.2, innerScript]
      rfl

end Rest

section Kept

variable {stance : Stance} {kind : String} {items : List Item}

theorem padsOfAll_append (first second : List Item) :
    padsOfAll kind (first ++ second) = padsOfAll kind first ++ padsOfAll kind second := by
  induction first with
  | nil => rfl
  | cons item rest ih => rw [List.cons_append, padsOfAll, ih, padsOfAll, List.append_assoc]

theorem padsOf_leftOut {item : Item} (leftOut : isLeftOut (some kind) item = true) :
    padsOf (some kind) item = [] := by
  cases item with
  | atom => cases leftOut
  | node => exact if_pos leftOut

theorem padsOfAll_leftOut (leftOut : ∀ item ∈ items, isLeftOut (some kind) item = true) :
    padsOfAll kind items = [] := by
  induction items with
  | nil => rfl
  | cons item rest ih =>
    obtain ⟨first, others⟩ := List.forall_mem_cons.mp leftOut
    rw [padsOfAll, padsOf_leftOut first, ih others]
    rfl

variable (plain : ∀ item ∈ items, IsPlain item)
  (rests : ∀ item ∈ items, isLeftOut (some kind) item = false → Rests stance (some kind) item)

include rests

theorem atRest_keptItems :
    ∀ item ∈ keptItems stance kind items, IsAtRest stance (some kind) item := by
  intro item member
  obtain ⟨source, inside, shown, rfl⟩ := mem_keptItems.mp member
  exact (rests source inside shown).atRest

theorem padsOfAll_keptItems : padsOfAll kind (keptItems stance kind items) = padsOfAll kind items := by
  rw [keptItems_eq]
  induction items with
  | nil => rfl
  | cons item rest ih =>
    obtain ⟨first, others⟩ := List.forall_mem_cons.mp rests
    rw [List.filter_cons, padsOfAll, ← ih others]
    cases leftOut : isLeftOut (some kind) item with
    | true => rw [padsOf_leftOut leftOut]; rfl
    | false =>
      rw [← (first leftOut).pads]
      rfl

include plain

theorem keptItems_again : keptItems stance kind (keptItems stance kind items) =
    keptItems stance kind items := by
  have shown : ∀ item ∈ keptItems stance kind items, isLeftOut (some kind) item = false :=
    shown_keptItems plain
  exact keptItems_fixed shown fun item member =>
    (atRest_keptItems rests item member).again (shown item member)

end Kept

end FootprintTemplate.Writer
