import FootprintTemplate.Proofs.Convert
import FootprintTemplate.Proofs.Group
import FootprintTemplate.Proofs.Sexpr.Layout
import FootprintTemplate.Proofs.Writer.PlacedWords

/-! Whole footprints as they stand on a board. The lines of a module, filled in, are read as the
placed footprint. -/
namespace FootprintTemplate.Preview

open Sexpr (Item Node tokensFrom width)
open Template (Filling Fragment fill)
open Writer (Draft Rule Stance cooked placed)

section Tree

def isShown (root : String) (child : Node) : Bool :=
  (Rule.select (some root) child.kind).disposition == .emit

def shownItems (stance : Stance) (root : String) (children : List Node) : List Item :=
  (children.filter (isShown root)).map fun child => (placed stance).item (some root) child.item

/-- The children of a footprint in the order of its module. -/
def writtenChildren (footprint : Node) : List Node :=
  (footprint.child? "layer").toList ++ (classify footprint).flatMap Group.nodes

def coordinateItem (value : Number.Double) : Item :=
  .atom (String.ofList (coordinateChars value))

def atItem (placement : Placement) : Item :=
  .node "at" [coordinateItem placement.x, coordinateItem placement.y, coordinateItem placement.r]

/-- The footprint as it stands on the board: its own atoms, its place, and its children placed. -/
def placedFootprint (stance : Stance) (placement : Placement) (footprint : Node) : Node :=
  ⟨footprint.kind, footprint.atoms.map (fun text => .atom (cooked text)) ++ atItem placement ::
    shownItems stance footprint.kind (writtenChildren footprint)⟩

theorem writtenChildren_groups (footprint : Node) : writtenChildren footprint =
    (footprint.child? "layer").toList ++
      GroupKind.all.flatMap fun kind => (groupsOf kind footprint).flatMap Group.nodes := by
  rw [writtenChildren, classify, List.flatMap_assoc]
  rfl

theorem mem_of_mem_writtenChildren {footprint child : Node}
    (member : child ∈ writtenChildren footprint) :
    child ∈ footprint.nodes := by
  rcases List.mem_append.mp member with layer | grouped
  · exact List.mem_of_find?_eq_some (Option.mem_toList.mp layer)
  · obtain ⟨group, inside, own⟩ := List.mem_flatMap.mp grouped
    obtain ⟨kind, -, ofKind⟩ := List.mem_flatMap.mp inside
    exact (List.mem_filter.mp (mem_groupOf.mp (List.mem_flatMap.mpr ⟨group, ofKind, own⟩))).1

theorem item_mem_items {footprint child : Node} (member : child ∈ footprint.nodes) :
    child.item ∈ footprint.items := by
  obtain ⟨item, inside, same⟩ := List.mem_filterMap.mp member
  cases item with
  | atom => cases same
  | node => cases same; exact inside

end Tree

section Gathering

/-- Holds of the pads, the statements and the children of a footprint together, as it does of each
child by itself. -/
structure Gathers (root : String) (property : List String → List Statement → List Node → Prop) :
    Prop where
  nil : property [] [] []
  append {pads asked : List String} {first second : List Statement} {before after : List Node}
    (start : property pads first before) (rest : property asked second after) :
    property (pads ++ asked) (first ++ second) (before ++ after)
  child {child : Node} {statement : Option Statement}
    (ok : (draftStatement root child).outcome = .ok statement) :
    property (draftStatement root child).pads statement.toList [child]

variable {root : String} {property : List String → List Statement → List Node → Prop}

theorem Gathers.draftStatements (gathers : Gathers root property) {children : List Node}
    {statements : List Statement}
    (ok : (draftStatements root children).outcome = .ok statements) :
    property (draftStatements root children).pads statements children := by
  obtain ⟨options, okOptions, rfl⟩ := Draft.bind_pure_eq_ok.mp ok
  rw [FootprintTemplate.draftStatements, Draft.pads_bind_pure]
  clear ok
  induction children generalizing options with
  | nil =>
    cases okOptions
    exact gathers.nil
  | cons child rest ih =>
    obtain ⟨option, others, okFirst, okRest, rfl⟩ := Draft.all_cons_eq_ok.mp okOptions
    have together : (option :: others).filterMap id = option.toList ++ others.filterMap id := by
      cases option <;> rfl
    rw [List.map_cons, Draft.pads_all_cons okFirst, together]
    exact gathers.append (gathers.child okFirst) (ih others okRest)

theorem Gathers.draftSections (gathers : Gathers root property) {groups : List Group}
    {sections : List Section}
    (ok : (Draft.all (groups.map fun group =>
      (FootprintTemplate.draftStatements root group.nodes).bind fun statements =>
        .pure (Section.mk group.label statements))).outcome = .ok sections) :
    property (Draft.all (groups.map fun group =>
        (FootprintTemplate.draftStatements root group.nodes).bind fun statements =>
          .pure (Section.mk group.label statements))).pads (sections.flatMap Section.statements)
      (groups.flatMap Group.nodes) := by
  induction groups generalizing sections with
  | nil =>
    cases ok
    exact gathers.nil
  | cons group rest ih =>
    obtain ⟨own, others, okFirst, okRest, rfl⟩ := Draft.all_cons_eq_ok.mp ok
    obtain ⟨statements, okStatements, rfl⟩ := Draft.bind_pure_eq_ok.mp okFirst
    rw [List.map_cons, Draft.pads_all_cons okFirst, Draft.pads_bind_pure]
    exact gathers.append (gathers.draftStatements okStatements) (ih okRest)

theorem Gathers.draftBody {footprint : Node} (gathers : Gathers footprint.kind property)
    {layer : Option Statement} {sections : List Section}
    (ok : (draftBody footprint).outcome = .ok (layer, sections)) :
    property (draftBody footprint).pads (layer.toList ++ sections.flatMap Section.statements)
      (writtenChildren footprint) := by
  obtain ⟨okLayer, okSections⟩ := draftBody_eq_ok.mp ok
  rw [FootprintTemplate.draftBody, Draft.pads_bind okLayer, Draft.pads_bind_pure]
  refine gathers.append ?_ (gathers.draftSections okSections)
  unfold draftLayer at okLayer ⊢
  cases found : footprint.child? "layer" with
  | none =>
    rw [found] at okLayer
    cases okLayer
    exact gathers.nil
  | some child =>
    rw [found] at okLayer
    exact gathers.child okLayer

end Gathering

section Lines

variable {stance : Stance}

/-- The lines of these statements are the items, one each, where the pads have their nets. -/
def Shows (stance : Stance) (pads : List String) (statements : List Statement)
    (items : List Item) : Prop :=
  ∀ filling, stance.Fits pads filling →
    statements.flatMap (Statement.lines filling) = items.map Item.chars

theorem Shows.nil (pads : List String) : Shows stance pads [] [] :=
  fun _ _ => rfl

theorem Shows.append {pads asked : List String} {first second : List Statement}
    {before after : List Item} (start : Shows stance pads first before)
    (rest : Shows stance asked second after) :
    Shows stance (pads ++ asked) (first ++ second) (before ++ after) := by
  intro filling fits
  rw [List.flatMap_append, List.map_append,
    start filling (fits.of_subset (List.subset_append_left _ _)),
    rest filling (fits.of_subset (List.subset_append_right _ _))]

theorem shownItems_append (root : String) (first second : List Node) :
    shownItems stance root (first ++ second) =
      shownItems stance root first ++ shownItems stance root second := by
  rw [shownItems, List.filter_append, List.map_append]
  rfl

theorem shows_draftStatement {root : String} {child : Node} {statement : Option Statement}
    (ok : (draftStatement root child).outcome = .ok statement) :
    Shows stance (draftStatement root child).pads statement.toList
      (shownItems stance root [child]) := by
  cases disposition : (Rule.select (some root) child.kind).disposition with
  | skip =>
    have hidden : shownItems stance root [child] = [] := by
      simp [shownItems, isShown, disposition]
    rw [draftStatement_skip disposition] at ok
    cases ok
    rw [hidden]
    exact .nil _
  | disabled =>
    have hidden : shownItems stance root [child] = [] := by
      simp [shownItems, isShown, disposition]
    rw [draftStatement_write (by simp [disposition]), disposition] at ok
    obtain ⟨fragments, -, rfl⟩ := Draft.bind_pure_eq_ok.mp ok
    rw [hidden]
    exact fun _ _ => rfl
  | emit =>
    have shown : shownItems stance root [child] =
        [(placed stance).item (some root) child.item] := by
      simp [shownItems, isShown, disposition]
    have written : Writer.isLeftOut (some root) child.item = false := by
      simp [Writer.isLeftOut, Node.item, disposition]
    rw [draftStatement_write (by simp [disposition]), disposition] at ok ⊢
    obtain ⟨fragments, okFragments, rfl⟩ := Draft.bind_pure_eq_ok.mp ok
    intro filling fits
    rw [Draft.pads_bind_pure] at fits
    have filled := Writer.fills_item stance (some root) child.item written fragments okFragments
      filling fits
    rw [shown, List.map_singleton, ← filled]
    rfl

theorem gathers_shows (root : String) :
    Gathers root fun pads statements children =>
      Shows stance pads statements (shownItems stance root children) where
  nil := .nil _
  append start rest := by
    rw [shownItems_append]
    exact start.append rest
  child := shows_draftStatement

end Lines

section Reading

theorem join_eq (separator : Char) (first : List Char) (rest : List (List Char)) :
    Text.join separator (first :: rest) = first ++ rest.flatMap (separator :: ·) := by
  induction rest generalizing first with
  | nil => simp [Text.join]
  | cons second others ih =>
    rw [Text.join_cons _ _ (List.cons_ne_nil _ _), ih, List.flatMap_cons]
    rfl

def lineChars (items : List Item) : List Char :=
  items.flatMap fun item => '\n' :: item.chars

theorem fill_header (filling : Filling) (footprint : Node) :
    fill filling (header footprint) = '(' :: ((cooked footprint.kind).toList ++
      Item.charsAll (footprint.atoms.map fun text => .atom (cooked text))) := by
  have atoms : ∀ texts : List String,
      fill filling (texts.flatMap fun atom => [.punct " ", .source atom]) =
        Item.charsAll (texts.map fun text => .atom (cooked text)) := by
    intro texts
    induction texts with
    | nil => rfl
    | cons text rest ih =>
      rw [List.flatMap_cons, Writer.fill_append, ih]
      simp [fill, Fragment.fill, Item.charsAll, Item.chars, cooked]
  have own := atoms footprint.atoms
  rw [fill] at own
  simp [header, fill, Fragment.fill, own, cooked]

theorem tokensFrom_lineChars (items : List Item) (offset : Nat) {rest : List Char}
    (ends : Sexpr.EndsBare rest)
    (lexemes : ∀ text ∈ Item.flattenAll items, Sexpr.Lexeme text.toList) :
    (tokensFrom offset (lineChars items ++ rest)).map Sexpr.Token.text =
      Item.flattenAll items ++
        (tokensFrom (offset + width (lineChars items)) rest).map Sexpr.Token.text := by
  induction items generalizing offset with
  | nil => rfl
  | cons item others ih =>
    simp only [Item.flattenAll, List.mem_append] at lexemes
    have shape : lineChars (item :: others) ++ rest =
        ['\n'] ++ (item.chars ++ (lineChars others ++ rest)) := by simp [lineChars]
    have bytes : offset + width ['\n'] + width item.chars + width (lineChars others) =
        offset + width (lineChars (item :: others)) := by
      simp [lineChars, Nat.add_assoc]
    have next : Sexpr.EndsBare (lineChars others ++ rest) := by
      cases others with
      | nil => exact ends
      | cons => exact Sexpr.endsBare_cons rfl _
    rw [shape, Sexpr.tokensFrom_gap _ (.blank rfl .nil),
      Sexpr.tokensFrom_chars item _ next fun text h => lexemes text (.inl h),
      ih _ fun text h => lexemes text (.inr h), bytes, Item.flattenAll, List.append_assoc]

end Reading

end FootprintTemplate.Preview
