import FootprintTemplate.Proofs.Number.Printing
import FootprintTemplate.Proofs.Writer.Placed

/-! Words and depth of placed trees. Every word of a placed tree is the text of one atom, and the
tree is at most one level deeper than its source. -/
namespace FootprintTemplate.Writer

open Number (Double)
open Preview (BoardNet)
open Sexpr (IsAtomText IsEscaped Item Node unquote quoted)

section Items

variable {stance : Stance} {kind : String} {pieces : List Rewritten}

theorem mem_results {item : Item} :
    item ∈ results pieces ↔ ∃ piece ∈ pieces, piece.result = item :=
  List.mem_map

theorem exists_of_mem_kept {item : Item} (member : item ∈ kept kind pieces) :
    ∃ piece ∈ pieces, piece.result = item := by
  obtain ⟨piece, inside, rfl⟩ := mem_results.mp member
  exact ⟨piece, (List.mem_filter.mp inside).1, rfl⟩

theorem takeDelta_subset : (takeDelta pieces).2 ⊆ pieces := by
  unfold takeDelta
  split
  · split
    · exact List.subset_cons_self _ _
    · exact List.Subset.refl _
  · exact List.Subset.refl _

/-- The items of a placed node are those of the source, as they are or placed, names and numbers
made of its atoms, and what the rules add. -/
theorem forall_placedItems {rule : Rule} (property : Item → Prop)
    (source : ∀ piece ∈ pieces, property piece.source)
    (result : ∀ piece ∈ pieces, property piece.result)
    (number : ∀ value, property (numberItem value))
    (entry : ∀ piece ∈ pieces, property (placedEntry stance.flip piece.source))
    (layer : ∀ text, .atom text ∈ pieces.map Rewritten.source →
      property (placedLayer stance.flip (unquote text)))
    (pad : ∀ text, .atom text ∈ pieces.map Rewritten.source →
      property (.atom (quoted (cooked (unquote text)))))
    (net : ∀ net, property (netItem net))
    (justify : ∀ shown, property (.node "justify" (mirrorWords shown)))
    (mirror : property (.atom "mirror")) :
    ∀ item ∈ placedItems stance rule kind pieces, property item := by
  have keeps {others : List Rewritten} (subset : others ⊆ pieces) :
      ∀ item ∈ kept kind others, property item := by
    intro item member
    obtain ⟨piece, inside, rfl⟩ := exists_of_mem_kept member
    exact result piece (subset inside)
  have words (shown : Bool) : ∀ item ∈ mirrorWords shown, property item := by
    cases shown <;> simp [mirrorWords, mirror]
  unfold placedItems
  split
  · refine List.forall_mem_cons.mpr ⟨pad _ (by simp), List.forall_mem_append.mpr
      ⟨keeps (List.subset_cons_self _ _), ?_⟩⟩
    split
    · exact fun _ member => absurd member List.not_mem_nil
    · exact List.forall_mem_singleton.mpr (net _)
  · refine List.forall_mem_cons.mpr ⟨number _, fun item member => ?_⟩
    obtain ⟨piece, inside, rfl⟩ := List.mem_map.mp member
    exact source piece (List.mem_cons_of_mem _ inside)
  · exact List.forall_mem_cons.mpr ⟨layer _ (by simp), keeps (List.subset_cons_self _ _)⟩
  · intro item member
    obtain ⟨piece, inside, rfl⟩ := List.mem_map.mp member
    exact entry piece inside
  · rename_i x _ y rest
    have atX : property (placedAtX stance.flip x) := by
      unfold placedAtX
      split
      · exact source ⟨.atom x, _⟩ List.mem_cons_self
      · exact number _
    refine List.forall_mem_cons.mpr ⟨atX, List.forall_mem_cons.mpr
      ⟨source y (by simp), List.forall_mem_cons.mpr ⟨number _, fun item member => ?_⟩⟩⟩
    obtain ⟨piece, inside, rfl⟩ := mem_results.mp member
    exact result piece (List.mem_cons_of_mem _ (List.mem_cons_of_mem _ (takeDelta_subset inside)))
  · refine List.forall_mem_append.mpr ⟨keeps (List.Subset.refl _), ?_⟩
    split
    · exact fun _ member => absurd member List.not_mem_nil
    · exact List.forall_mem_singleton.mpr (justify _)
  · exact List.forall_mem_append.mpr ⟨keeps List.filter_sublist.subset, words _⟩
  · exact keeps (List.Subset.refl _)

end Items

section Words

/-- Every word is the text of an atom. -/
def IsSpelt (item : Item) : Prop :=
  ∀ word ∈ item.words, IsAtomText word.toList

theorem isSpelt_node {kind : String} {items : List Item} :
    IsSpelt (.node kind items) ↔ IsAtomText kind.toList ∧ ∀ item ∈ items, IsSpelt item :=
  Item.forall_words_node fun word => IsAtomText word.toList

theorem isSpelt_atom {text : String} : IsSpelt (.atom text) ↔ IsAtomText text.toList := by
  simp [IsSpelt, Item.words]

structure IsQuotable (name : String) : Prop where
  escaped : IsEscaped '"' name.toList

theorem isSpelt_quoted {name : String} (quotable : IsQuotable name) :
    IsSpelt (.atom (quoted name)) := by
  rw [isSpelt_atom, Sexpr.toList_quoted]
  exact .quoted quotable.escaped

theorem isAtomText_cooked {text : String} (atom : IsAtomText text.toList) :
    IsAtomText (cooked text).toList := by
  rw [cooked, String.toList_ofList]
  exact Script.isAtomText_lineFeeds atom

theorem isQuotable_cooked {name : String} (quotable : IsQuotable name) :
    IsQuotable (cooked name) := by
  refine ⟨?_⟩
  rw [cooked, String.toList_ofList]
  exact Script.isEscaped_lineFeeds quotable.escaped

theorem isQuotable_unquote {text : String} (atom : IsAtomText text.toList) :
    IsQuotable (unquote text) := by
  refine ⟨?_⟩
  rw [unquote, String.toList_ofList]
  exact atom.unquotedChars

theorem isQuotable_swapped {name swapped : String} (swap : Layer.swapFace? name = some swapped)
    (quotable : IsQuotable name) : IsQuotable swapped := by
  have escaped := quotable.escaped
  obtain ⟨chars, found, rfl⟩ := Option.map_eq_some_iff.mp swap
  refine ⟨?_⟩
  rw [String.toList_ofList]
  unfold Layer.swapFaceChars? at found
  split at found
  · rename_i shape
    rw [shape] at escaped
    cases found
    exact ⟨fun quote => absurd quote (by decide), escaped.2.change (by decide)⟩
  · rename_i shape
    rw [shape] at escaped
    cases found
    exact ⟨fun quote => absurd quote (by decide), escaped.2.change (by decide)⟩
  · cases found

theorem isQuotable_seenLayer {name : String} (flip : Bool) (quotable : IsQuotable name) :
    IsQuotable (seenLayer flip name) := by
  unfold seenLayer
  split
  · cases swap : Layer.swapFace? name with
    | none => exact quotable
    | some swapped => exact isQuotable_swapped swap quotable
  · exact quotable

theorem isSpelt_numberItem (value : Double) : IsSpelt (numberItem value) := by
  rw [numberItem, isSpelt_atom, String.toList_ofList]
  exact .bare (Number.isBare_scriptStyle value)

theorem isSpelt_netItem (net : BoardNet) : IsSpelt (netItem net) := by
  have index : IsAtomText (toString net.index).toList := by
    rw [Nat.toString_eq_repr, Nat.toList_repr]
    exact .bare ((Number.isPrinted_toDigits _).isBare Nat.toDigits_ne_nil)
  have name : IsAtomText (String.ofList (Script.stringLiteral net.name.toList)).toList := by
    rw [String.toList_ofList]
    exact Script.isAtomText_stringLiteral _
  exact isSpelt_node.mpr ⟨.bare (by decide), List.forall_mem_cons.mpr
    ⟨isSpelt_atom.mpr index, List.forall_mem_singleton.mpr (isSpelt_atom.mpr name)⟩⟩

theorem isSpelt_mirror : IsSpelt (.atom "mirror") :=
  isSpelt_atom.mpr (.bare (by decide))

theorem isSpelt_justify (shown : Bool) : IsSpelt (.node "justify" (mirrorWords shown)) := by
  refine isSpelt_node.mpr ⟨.bare (by decide), ?_⟩
  cases shown <;> simp [mirrorWords, isSpelt_mirror]

theorem isSpelt_placedEntry (flip : Bool) {item : Item} (spelt : IsSpelt item) :
    IsSpelt (placedEntry flip item) := by
  have name : IsQuotable (unquote (item.atom?.getD "")) := by
    cases item with
    | atom text => exact isQuotable_unquote (isSpelt_atom.mp spelt)
    | node => exact ⟨trivial⟩
  exact isSpelt_quoted (isQuotable_cooked (isQuotable_seenLayer flip name))

theorem isSpelt_placedLayer (flip : Bool) {name : String} (quotable : IsQuotable name) :
    IsSpelt (placedLayer flip name) := by
  unfold placedLayer
  split
  · exact isSpelt_quoted (isQuotable_seenLayer flip quotable)
  · exact isSpelt_quoted (isQuotable_cooked quotable)

theorem isSpelt_placedItems {stance : Stance} {rule : Rule} {kind : String}
    {pieces : List Rewritten}
    (spelt : ∀ piece ∈ pieces, IsSpelt piece.source ∧ IsSpelt piece.result) :
    ∀ item ∈ placedItems stance rule kind pieces, IsSpelt item := by
  have names : ∀ text, .atom text ∈ pieces.map Rewritten.source →
      IsQuotable (unquote text) := by
    intro text member
    obtain ⟨piece, inside, same⟩ := List.mem_map.mp member
    have atom := (spelt piece inside).1
    rw [same, isSpelt_atom] at atom
    exact isQuotable_unquote atom
  exact forall_placedItems IsSpelt
    (fun piece inside => (spelt piece inside).1) (fun piece inside => (spelt piece inside).2)
    isSpelt_numberItem (fun piece inside => isSpelt_placedEntry _ (spelt piece inside).1)
    (fun text member => isSpelt_placedLayer _ (names text member))
    (fun text member => isSpelt_quoted (isQuotable_cooked (names text member)))
    isSpelt_netItem isSpelt_justify isSpelt_mirror

mutual
theorem isSpelt_placed (stance : Stance) (parent : Option String) (item : Item)
    (spelt : IsSpelt item) : IsSpelt ((placed stance).item parent item) := by
  cases item with
  | atom text =>
    rw [Rewriting.item, isSpelt_atom]
    exact isAtomText_cooked (isSpelt_atom.mp spelt)
  | node kind items =>
    obtain ⟨own, rest⟩ := isSpelt_node.mp spelt
    rw [Rewriting.item, isSpelt_node]
    exact ⟨isAtomText_cooked own, isSpelt_placedItems (isSpelt_placedPieces stance kind items rest)⟩

theorem isSpelt_placedPieces (stance : Stance) (kind : String) (items : List Item)
    (spelt : ∀ item ∈ items, IsSpelt item) :
    ∀ piece ∈ (placed stance).items kind items, IsSpelt piece.source ∧ IsSpelt piece.result := by
  cases items with
  | nil => exact fun _ member => nomatch member
  | cons item rest =>
    obtain ⟨head, tail⟩ := List.forall_mem_cons.mp spelt
    exact List.forall_mem_cons.mpr ⟨⟨head, isSpelt_placed stance (some kind) item head⟩,
      isSpelt_placedPieces stance kind rest tail⟩
end

end Words

section Depth

theorem depth_atom (text : String) : (Item.atom text).depth = 0 := by
  rw [Item.depth]

theorem depth_netItem (net : BoardNet) : (netItem net).depth = 1 := by
  simp [netItem, Item.depth, Item.depthAll]

theorem depth_justify (shown : Bool) : (Item.node "justify" (mirrorWords shown)).depth = 1 := by
  cases shown <;> simp [mirrorWords, Item.depth, Item.depthAll]

theorem depth_placedItems {stance : Stance} {rule : Rule} {kind : String}
    {pieces : List Rewritten} {limit : Nat}
    (shallow : ∀ piece ∈ pieces, piece.source.depth ≤ limit + 1 ∧ piece.result.depth ≤ limit + 1) :
    ∀ item ∈ placedItems stance rule kind pieces, item.depth ≤ limit + 1 := by
  have flat (text : String) : (Item.atom text).depth ≤ limit + 1 := by
    rw [depth_atom]
    exact Nat.zero_le _
  have net (net : BoardNet) : (netItem net).depth ≤ limit + 1 := by
    rw [depth_netItem]
    exact Nat.le_add_left _ _
  have justify (shown : Bool) : (Item.node "justify" (mirrorWords shown)).depth ≤ limit + 1 := by
    rw [depth_justify]
    exact Nat.le_add_left _ _
  exact forall_placedItems (fun item => item.depth ≤ limit + 1)
    (fun piece inside => (shallow piece inside).1) (fun piece inside => (shallow piece inside).2)
    (fun _ => flat _) (fun _ _ => flat _) (fun _ _ => flat _) (fun _ _ => flat _) net justify
    (flat _)

mutual
theorem depth_placed (stance : Stance) (parent : Option String) (item : Item) :
    ((placed stance).item parent item).depth ≤ item.depth + 1 := by
  cases item with
  | atom text =>
    rw [Rewriting.item, depth_atom]
    exact Nat.zero_le _
  | node kind items =>
    rw [Rewriting.item, Item.depth, Item.depth]
    exact Nat.succ_le_succ (Item.depthAll_le.mpr
      (depth_placedItems (depth_placedPieces stance kind items)))

theorem depth_placedPieces (stance : Stance) (kind : String) (items : List Item) :
    ∀ piece ∈ (placed stance).items kind items,
      piece.source.depth ≤ Item.depthAll items + 1 ∧
        piece.result.depth ≤ Item.depthAll items + 1 := by
  cases items with
  | nil => exact fun _ member => nomatch member
  | cons item rest =>
    have head := depth_placed stance (some kind) item
    have tail := depth_placedPieces stance kind rest
    rw [Rewriting.items, Item.depthAll]
    refine List.forall_mem_cons.mpr ⟨⟨?_, ?_⟩, fun piece inside => ⟨?_, ?_⟩⟩
    · exact Nat.le_succ_of_le (Nat.le_max_left _ _)
    · exact Nat.le_trans head (Nat.succ_le_succ (Nat.le_max_left _ _))
    · exact Nat.le_trans (tail piece inside).1 (Nat.succ_le_succ (Nat.le_max_right _ _))
    · exact Nat.le_trans (tail piece inside).2 (Nat.succ_le_succ (Nat.le_max_right _ _))
end

end Depth

end FootprintTemplate.Writer
