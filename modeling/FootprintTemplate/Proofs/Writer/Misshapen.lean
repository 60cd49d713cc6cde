import FootprintTemplate.Proofs.Writer.Asked

/-! Misshapen nodes. Writing a tree visits its nodes, each before those inside it, and stops at the
first one whose items are not as its kind asks. -/
namespace FootprintTemplate.Writer

open Sexpr (Item Node)

section Expectations

def isNumberItem (item : Item) : Bool :=
  item.atom?.any Number.isNumber

/-- The items are as expected, found by looking at them. -/
def Expectation.isMet : Expectation → List Item → Bool
  | .padIdentifier, items | .layerName, items => (items.head?.bind Item.atom?).isSome
  | .onlyLayerNames, items => items.all (·.atom?.isSome)
  | .twoNumbers, items => items.length == 2 && items.all isNumberItem
  | .placement, items =>
    [2, 3].contains (items.takeWhile isNumberItem).length &&
      (items.dropWhile isNumberItem).all (·.atom?.isSome)

theorem startsWithAtom_iff {items : List Item} :
    (items.head?.bind Item.atom?).isSome = true ↔ ∃ text rest, items = .atom text :: rest := by
  match items with
  | [] => simp
  | .node _ _ :: _ => simp [Item.atom?]
  | .atom text :: rest => simp [Item.atom?]

theorem all_isSome_iff {items : List Item} :
    items.all (·.atom?.isSome) = true ↔ ∃ names : List String, items = names.map .atom := by
  induction items with
  | nil => exact ⟨fun _ => ⟨[], rfl⟩, fun _ => rfl⟩
  | cons item rest ih =>
    rw [List.all_cons, Bool.and_eq_true, ih]
    constructor
    · rintro ⟨own, names, rfl⟩
      cases item with
      | atom text => exact ⟨text :: names, rfl⟩
      | node => cases own
    · rintro ⟨names, shape⟩
      cases names with
      | nil => cases shape
      | cons name others =>
        obtain ⟨rfl, rfl⟩ := List.cons.inj shape
        exact ⟨rfl, others, rfl⟩

theorem all_isNumberItem_iff {items : List Item} :
    items.all isNumberItem = true ↔
      ∃ numbers : List String, items = numbers.map .atom ∧
        ∀ text ∈ numbers, Number.isNumber text = true := by
  induction items with
  | nil => exact ⟨fun _ => ⟨[], rfl, nofun⟩, fun _ => rfl⟩
  | cons item rest ih =>
    rw [List.all_cons, Bool.and_eq_true, ih]
    constructor
    · rintro ⟨own, numbers, rfl, areNumbers⟩
      cases item with
      | atom text => exact ⟨text :: numbers, rfl, List.forall_mem_cons.mpr ⟨own, areNumbers⟩⟩
      | node => cases own
    · rintro ⟨numbers, shape, areNumbers⟩
      cases numbers with
      | nil => cases shape
      | cons number others =>
        obtain ⟨rfl, rfl⟩ := List.cons.inj shape
        obtain ⟨own, others'⟩ := List.forall_mem_cons.mp areNumbers
        exact ⟨own, others, rfl, others'⟩

theorem span_placementItems {x y : String} {delta : Option String} {flags : List String}
    (placement : IsPlacement x y delta flags) :
    (placementItems x y delta flags).takeWhile isNumberItem =
        (x :: y :: delta.toList).map .atom ∧
      (placementItems x y delta flags).dropWhile isNumberItem = flags.map .atom := by
  have front : ∀ item ∈ (x :: y :: delta.toList).map Item.atom, isNumberItem item = true := by
    intro item member
    obtain ⟨text, inNumbers, rfl⟩ := List.mem_map.mp member
    rcases List.mem_cons.mp inNumbers with rfl | inRest
    · exact placement.x
    rcases List.mem_cons.mp inRest with rfl | inDelta
    · exact placement.y
    · exact placement.delta text (Option.mem_toList.mp inDelta)
  have shape : placementItems x y delta flags =
      (x :: y :: delta.toList).map .atom ++ flags.map .atom := by
    simp [placementItems]
  rw [shape, List.takeWhile_append_of_pos front, List.dropWhile_append_of_pos front]
  cases flags with
  | nil => simp
  | cons text rest =>
    have stop : isNumberItem (.atom text) = false := placement.flags text rfl
    simp [stop]

theorem isPlacement_of_numbers {numbers flags : List String}
    (count : numbers.length = 2 ∨ numbers.length = 3)
    (areNumbers : ∀ text ∈ numbers, Number.isNumber text = true)
    (areFlags : ∀ text ∈ flags.head?, Number.isNumber text = false) :
    Expectation.placement.Met ((numbers ++ flags).map .atom) := by
  match numbers, count with
  | [x, y], _ =>
    exact ⟨x, y, none, flags, rfl, areNumbers x (by simp), areNumbers y (by simp), nofun, areFlags⟩
  | [x, y, delta], _ =>
    refine ⟨x, y, some delta, flags, rfl, areNumbers x (by simp), areNumbers y (by simp), ?_,
      areFlags⟩
    rintro text ⟨⟩
    exact areNumbers delta (by simp)

theorem placement_isMet_iff {items : List Item} :
    Expectation.placement.isMet items = true ↔ Expectation.placement.Met items := by
  simp only [Expectation.isMet, Bool.and_eq_true, List.contains_iff_mem, List.mem_cons,
    List.not_mem_nil, or_false, all_isSome_iff]
  constructor
  · rintro ⟨count, flags, isFlags⟩
    have front : (items.takeWhile isNumberItem).all isNumberItem = true := List.all_takeWhile
    obtain ⟨numbers, isNumbers, areNumbers⟩ := all_isNumberItem_iff.mp front
    have whole : items = (numbers ++ flags).map .atom := by
      rw [List.map_append, ← isNumbers, ← isFlags, List.takeWhile_append_dropWhile]
    rw [isNumbers, List.length_map] at count
    rw [whole]
    refine isPlacement_of_numbers count areNumbers fun text first => ?_
    have stop := List.head?_dropWhile_not isNumberItem items
    rw [isFlags, List.head?_map, first] at stop
    simpa [isNumberItem, Item.atom?] using stop
  · rintro ⟨x, y, delta, flags, rfl, placement⟩
    obtain ⟨front, back⟩ := span_placementItems placement
    refine ⟨?_, flags, back⟩
    rw [front]
    cases delta <;> simp

theorem Expectation.isMet_iff {expectation : Expectation} {items : List Item} :
    expectation.isMet items = true ↔ expectation.Met items := by
  cases expectation with
  | padIdentifier => exact startsWithAtom_iff
  | layerName => exact startsWithAtom_iff
  | onlyLayerNames => exact all_isSome_iff
  | twoNumbers =>
    simp only [isMet, Bool.and_eq_true, beq_iff_eq, all_isNumberItem_iff]
    constructor
    · rintro ⟨count, numbers, rfl, areNumbers⟩
      match numbers, count with
      | [x, y], _ => exact ⟨x, y, rfl, areNumbers x (by simp), areNumbers y (by simp)⟩
    · rintro ⟨x, y, rfl, numberX, numberY⟩
      exact ⟨rfl, [x, y], rfl, by simp [numberX, numberY]⟩
  | placement => exact placement_isMet_iff

instance (expectation : Expectation) (items : List Item) : Decidable (expectation.Met items) :=
  decidable_of_iff _ Expectation.isMet_iff

end Expectations

section Visits

/-- Nothing is written for a node of this kind in a parent of that kind. -/
def isWithheld (parent : Option String) (kind : String) : Bool :=
  Rule.provenanceKinds.contains kind || (kind == "net" && parent == some "pad")

/-- What the items of a node have to be, if anything is asked of them. -/
def expected? (parent : Option String) (kind : String) : Option Expectation :=
  if kind == "pad" then some .padIdentifier
  else if kind == "layer" then some .layerName
  else if kind == "layers" then some .onlyLayerNames
  else if Rule.coordinateKinds.contains kind then some .twoNumbers
  else if kind == "at" && parent != some "model" then some .placement
  else none

/-- A node and the kind of the node around it. -/
structure Visit where
  parent : Option String
  node : Node

/-- What is wrong with the node itself. -/
def Visit.misshapen? (visit : Visit) : Option Misshapen :=
  match expected? visit.parent visit.node.kind with
  | none => none
  | some expectation =>
    if expectation.Met visit.node.items then none else some ⟨visit.node.kind, expectation⟩

mutual
/-- The nodes of an item in a parent of the given kind, each before those inside it. Nodes that are
withheld are not entered. -/
def visits (parent : Option String) : Item → List Visit
  | .atom _ => []
  | .node kind items =>
    if isWithheld parent kind then [] else ⟨parent, ⟨kind, items⟩⟩ :: visitsAll kind items

def visitsAll (kind : String) : List Item → List Visit
  | [] => []
  | item :: rest => visits (some kind) item ++ visitsAll kind rest
end

variable {parent : Option String} {kind : String}

theorem isWithheld_eq (parent : Option String) (kind : String) :
    isWithheld parent kind = ((Rule.select parent kind).disposition == .skip) := by
  rw [Rule.disposition_select, isWithheld]
  cases Rule.provenanceKinds.contains kind || kind == "net" && parent == some "pad" with
  | true => rfl
  | false => cases kind == "property" <;> rfl

theorem expected?_eq (parent : Option String) (kind : String) :
    expected? parent kind = (Rule.select parent kind).expected? := by
  by_cases pad : kind = "pad"
  · rw [pad]
    rfl
  by_cases layer : kind = "layer"
  · rw [layer]
    rfl
  by_cases layers : kind = "layers"
  · rw [layers]
    rfl
  by_cases place : kind = "at"
  · by_cases model : parent = some "model"
    · rw [place, model]
      rfl
    · simp [expected?, Rule.select, place, model, Rule.coordinateKinds, Rule.expected?]
  · simp only [expected?, Rule.select, apply_ite Rule.expected?]
    simp [Rule.expected?, pad, layer, layers, place]

theorem Visit.misshapen?_eq_none {items : List Item} :
    Visit.misshapen? ⟨parent, ⟨kind, items⟩⟩ = none ↔
      ∀ expectation ∈ (Rule.select parent kind).expected?, expectation.Met items := by
  simp only [misshapen?, expected?_eq]
  cases (Rule.select parent kind).expected? <;> simp

theorem Visit.misshapen?_eq_some {items : List Item} {misshapen : Misshapen} :
    Visit.misshapen? ⟨parent, ⟨kind, items⟩⟩ = some misshapen ↔
      ∃ expectation, (Rule.select parent kind).expected? = some expectation ∧
        ¬expectation.Met items ∧ misshapen = ⟨kind, expectation⟩ := by
  simp only [misshapen?, expected?_eq]
  cases (Rule.select parent kind).expected? <;> simp [eq_comm]

theorem visitsAll_atoms (kind : String) (texts : List String) :
    visitsAll kind (texts.map .atom) = [] := by
  induction texts with
  | nil => rfl
  | cons text rest ih => exact ih

theorem visitsAll_filter (kind : String) (items : List Item) :
    visitsAll kind (items.filter (!isMirrorWord ·)) = visitsAll kind items := by
  induction items with
  | nil => rfl
  | cons item rest ih =>
    rw [List.filter_cons, visitsAll, ← ih]
    split
    · rfl
    · rename_i word
      cases item with
      | atom => rfl
      | node => exact absurd rfl word

theorem Lays.visitsAll_kids {rule : Rule} {items : List Item} {layout : Layout}
    (lays : Lays kind rule items layout) (written : rule.disposition ≠ .skip) :
    visitsAll kind layout.kids = visitsAll kind items := by
  cases lays with
  | generic | unconnected | pad | xy | layer | effects => rfl
  | layers => exact (visitsAll_atoms kind _).symm
  | @«at» x y delta flags =>
    have items : visitsAll kind (placementItems x y delta flags) = [] :=
      visitsAll_atoms kind (x :: y :: (delta.toList ++ flags))
    rw [visitsAll_atoms, items]
  | justify => exact visitsAll_filter kind items
  | dropped skip => exact absurd skip written

end Visits

section Failures

variable {α β : Type}

/-- What a draft stops at. -/
def Draft.failure? (draft : Draft α) : Option Misshapen :=
  match draft.outcome with
  | .error error => some error
  | .ok _ => none

theorem Draft.failure?_bind_pure (draft : Draft α) (f : α → β) :
    (draft.bind fun value => .pure (f value)).failure? = draft.failure? := by
  obtain ⟨pads, outcome⟩ := draft
  cases outcome <;> rfl

theorem Draft.failure?_append (first second : Text) :
    (first ++ second).failure? = first.failure?.or second.failure? := by
  change (first.append second).failure? = _
  obtain ⟨pads, outcome⟩ := first
  cases outcome with
  | error => rfl
  | ok => exact failure?_bind_pure second _

theorem Draft.failure?_all (drafts : List (Draft α)) :
    (all drafts).failure? = drafts.findSome? failure? := by
  induction drafts with
  | nil => rfl
  | cons draft rest ih =>
    obtain ⟨pads, outcome⟩ := draft
    cases outcome with
    | error => rfl
    | ok value =>
      rw [List.findSome?_cons, ← ih]
      exact failure?_bind_pure (all rest) _

variable {kind : String} {items : List Item}

theorem failure?_draft (layout : Layout) :
    (layout.draft kind).failure? = (placedAll kind (layout.kids.map (partOf kind))).failure? := by
  have text : (.fragments layout.head ++ placedAll kind (layout.kids.map (partOf kind)) ++
      .fragments layout.tail : Text).failure? =
        (placedAll kind (layout.kids.map (partOf kind))).failure? := by
    rw [Draft.failure?_append, Draft.failure?_append]
    exact Option.or_none
  unfold Layout.draft
  cases layout.ask <;> exact text

/-- Writing an item stops at the first misshapen node that is visited. -/
def Stops (parent : Option String) (item : Item) : Prop :=
  (writeItem parent item).failure? = (visits parent item).findSome? Visit.misshapen?

theorem failure?_placedAll (all : ∀ item ∈ items, Stops (some kind) item) :
    (placedAll kind (items.map (partOf kind))).failure? =
      (visitsAll kind items).findSome? Visit.misshapen? := by
  induction items with
  | nil => rfl
  | cons item rest ih =>
    obtain ⟨first, others⟩ := List.forall_mem_cons.mp all
    rw [visitsAll, List.findSome?_append, ← ih others, ← first]
    cases dropped : (partOf kind item).isDropped kind with
    | true =>
      have none : visits (some kind) item = [] := by
        cases item with
        | atom => rfl
        | node inner inside => exact if_pos ((isWithheld_eq (some kind) inner).trans dropped)
      rw [placedAll_dropped dropped, first, none]
      rfl
    | false =>
      rw [placedAll_kept dropped, Draft.failure?_append, Draft.failure?_append]
      rfl

theorem stops_node {parent : Option String} (all : ∀ item ∈ items, Stops (some kind) item) :
    Stops parent (.node kind items) := by
  unfold Stops
  rw [writeItem_node, visits, isWithheld_eq]
  split
  · rename_i skip
    rw [beq_iff_eq] at skip
    generalize Rule.select parent kind = rule at skip
    cases rule <;> cases skip <;> rfl
  · rename_i written
    rw [List.findSome?_cons]
    cases own : Visit.misshapen? ⟨parent, ⟨kind, items⟩⟩ with
    | none =>
      obtain ⟨layout, lays⟩ := @lays_of_met kind items _ (Visit.misshapen?_eq_none.mp own)
      have kids := fun item member => all item (lays.kids_subset member)
      rw [lays.compose_eq, failure?_draft, failure?_placedAll kids,
        lays.visitsAll_kids (by simpa using written)]
    | some misshapen =>
      obtain ⟨expectation, expected, unmet, rfl⟩ := Visit.misshapen?_eq_some.mp own
      rw [compose_unmet expected unmet]
      rfl

mutual
theorem stops_item (parent : Option String) (item : Item) : Stops parent item := by
  cases item with
  | atom => rfl
  | node kind items => exact stops_node (stops_items kind items)

theorem stops_items (kind : String) (items : List Item) :
    ∀ item ∈ items, Stops (some kind) item := by
  cases items with
  | nil => exact fun _ member => nomatch member
  | cons item rest =>
    exact List.forall_mem_cons.mpr ⟨stops_item (some kind) item, stops_items kind rest⟩
end

end Failures

end FootprintTemplate.Writer
