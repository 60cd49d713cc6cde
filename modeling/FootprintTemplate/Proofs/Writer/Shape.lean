import FootprintTemplate.Proofs.Writer.Draft
import FootprintTemplate.Proofs.Writer.Rewriting

/-! Shapes of items that the rules can write, and what is written for them. -/
namespace FootprintTemplate.Writer

open Sexpr (Item)

/-- An item in a node of the given kind with its draft. -/
def partOf (kind : String) (item : Item) : Part :=
  ⟨item, writeItem (some kind) item⟩

theorem partsOf_eq_map (kind : String) (items : List Item) :
    partsOf kind items = items.map (partOf kind) := by
  induction items with
  | nil => rfl
  | cons item rest ih => rw [partsOf, ih]; rfl

theorem number?_eq_some {kind : String} {item : Item} {text : String} :
    (partOf kind item).number? = some text ↔ item = .atom text ∧ Number.isNumber text = true := by
  cases item with
  | atom own =>
    simp only [partOf, Part.number?, Part.atom?, Item.atom?, Option.filter_eq_some_iff,
      Option.some.injEq, Item.atom.injEq]
  | node => simp [partOf, Part.number?, Part.atom?, Item.atom?]

theorem map_number? {kind : String} {items : List Item} {numbers : List String} :
    items.map (Part.number? ∘ partOf kind) = numbers.map some ↔
      items = numbers.map .atom ∧ ∀ text ∈ numbers, Number.isNumber text = true := by
  induction items generalizing numbers with
  | nil => cases numbers <;> simp
  | cons item rest ih =>
    cases numbers with
    | nil => simp
    | cons number others =>
      simp only [List.map_cons, List.cons.injEq, Function.comp_apply, number?_eq_some, ih,
        List.forall_mem_cons]
      constructor
      · rintro ⟨⟨rfl, isNumber⟩, rfl, areNumbers⟩
        exact ⟨⟨rfl, rfl⟩, isNumber, areNumbers⟩
      · rintro ⟨⟨rfl, rfl⟩, isNumber, areNumbers⟩
        exact ⟨⟨rfl, isNumber⟩, rfl, areNumbers⟩

theorem mapM_atom? {kind : String} {items : List Item} {names : List String} :
    (items.map (partOf kind)).mapM Part.atom? = some names ↔ items = names.map .atom := by
  induction items generalizing names with
  | nil => cases names <;> simp
  | cons item rest ih =>
    rw [List.map_cons, List.mapM_cons]
    cases item with
    | node =>
      have head : (partOf kind (.node ‹_› ‹_›)).atom? = none := rfl
      cases names <;> simp [head]
    | atom text =>
      have head : (partOf kind (.atom text)).atom? = some text := rfl
      simp only [head, Option.bind_eq_bind, Option.bind_some]
      constructor
      · intro read
        obtain ⟨others, readOthers, same⟩ := Option.bind_eq_some_iff.mp read
        cases Option.some.inj same
        rw [ih.mp readOthers]
        rfl
      · intro shape
        cases names with
        | nil => cases shape
        | cons name others =>
          obtain ⟨head, tail⟩ := List.cons.inj shape
          cases Item.atom.inj head
          rw [ih.mpr tail]
          rfl

theorem writeItem_node (parent : Option String) (kind : String) (items : List Item) :
    writeItem parent (.node kind items) =
      compose (Rule.select parent kind) kind (items.map (partOf kind)) := by
  rw [writeItem, partsOf_eq_map]

def placementItems (x y : String) (delta : Option String) (flags : List String) : List Item :=
  .atom x :: .atom y :: (delta.toList ++ flags).map .atom

/-- The coordinates and the rotation are numbers; what comes first after them is none. -/
structure IsPlacement (x y : String) (delta : Option String) (flags : List String) : Prop where
  x : Number.isNumber x = true
  y : Number.isNumber y = true
  delta : ∀ text ∈ delta, Number.isNumber text = true
  flags : ∀ text ∈ flags.head?, Number.isNumber text = false

/-- The items are as expected. -/
def Expectation.Met : Expectation → List Item → Prop
  | .padIdentifier, items | .layerName, items => ∃ text rest, items = .atom text :: rest
  | .onlyLayerNames, items => ∃ names : List String, items = names.map .atom
  | .twoNumbers, items =>
    ∃ x y, items = [.atom x, .atom y] ∧ Number.isNumber x = true ∧ Number.isNumber y = true
  | .placement, items =>
    ∃ x y delta flags, items = placementItems x y delta flags ∧ IsPlacement x y delta flags

theorem writeXy_numbers (kind : String) {x y : String} (numberX : Number.isNumber x = true)
    (numberY : Number.isNumber y = true) :
    writeXy kind ([.atom x, .atom y].map (partOf kind)) = .fragments
      [.punct "(", .source kind, .punct " ", .coordinate x, .punct " ", .source y,
        .punct ")"] := by
  simp only [writeXy, List.map_cons, List.map_nil, number?_eq_some.mpr ⟨rfl, numberX⟩,
    number?_eq_some.mpr ⟨rfl, numberY⟩]

theorem writeXy_unmet {kind : String} {items : List Item} (unmet : ¬Expectation.twoNumbers.Met items) :
    writeXy kind (items.map (partOf kind)) = .fail kind .twoNumbers := by
  unfold writeXy
  rw [List.map_map]
  split
  · rename_i x y numbers
    obtain ⟨rfl, areNumbers⟩ := map_number?.mp (numbers.trans (b := [x, y].map some) rfl)
    exact absurd ⟨x, y, rfl, areNumbers x (by simp), areNumbers y (by simp)⟩ unmet
  · rfl

theorem writeXy_eq_ok {kind : String} {items : List Item} {fragments : List Template.Fragment}
    (ok : (writeXy kind (items.map (partOf kind))).outcome = .ok fragments) :
    Expectation.twoNumbers.Met items := by
  apply Classical.byContradiction
  intro unmet
  rw [writeXy_unmet unmet] at ok
  cases ok

theorem writeLayers_unmet {kind : String} {items : List Item}
    (unmet : ¬Expectation.onlyLayerNames.Met items) :
    writeLayers kind (items.map (partOf kind)) = .fail kind .onlyLayerNames := by
  unfold writeLayers
  split
  · rename_i names atoms
    exact absurd ⟨names, mapM_atom?.mp atoms⟩ unmet
  · rfl

theorem writeLayers_eq_ok {kind : String} {items : List Item} {fragments : List Template.Fragment}
    (ok : (writeLayers kind (items.map (partOf kind))).outcome = .ok fragments) :
    Expectation.onlyLayerNames.Met items := by
  apply Classical.byContradiction
  intro unmet
  rw [writeLayers_unmet unmet] at ok
  cases ok

theorem writeLayers_names (kind : String) (names : List String) :
    writeLayers kind ((names.map .atom).map (partOf kind)) =
      .punct "(layers" ++ .fragments (names.flatMap fun text => layerEntry (Sexpr.unquote text)) ++
        .punct ")" := by
  simp only [writeLayers, mapM_atom?.mpr rfl]

theorem any_isKind_justify (kind : String) (items : List Item) :
    (items.map (partOf kind)).any (Part.isKind "justify") = items.any isJustify := by
  rw [List.any_map]
  rfl

theorem writeJustify_parts (kind : String) (items : List Item) :
    writeJustify kind (items.map (partOf kind)) =
      .punct "(justify" ++ placedAll kind ((items.filter (!isMirrorWord ·)).map (partOf kind)) ++
        .fragments [.mirrorFlag (items.any isMirrorWord), .punct ")"] := by
  simp only [writeJustify, List.filter_map, List.any_map]
  rfl

section Placement

variable {kind : String}

theorem isFlag_atom (text : String) :
    isFlag (partOf kind (.atom text)) = !Number.isNumber text := rfl

theorem all_isSome_atom? {items : List Item} :
    ((items.map (partOf kind)).all fun flag => flag.atom?.isSome) = true ↔
      ∃ names : List String, items = names.map .atom := by
  induction items with
  | nil => exact ⟨fun _ => ⟨[], rfl⟩, fun _ => rfl⟩
  | cons item rest ih =>
    rw [List.map_cons, List.all_cons, Bool.and_eq_true, ih]
    constructor
    · rintro ⟨head, names, rfl⟩
      cases item with
      | atom text => exact ⟨text :: names, rfl⟩
      | node => cases head
    · rintro ⟨names, shape⟩
      cases names with
      | nil => cases shape
      | cons name others =>
        obtain ⟨rfl, rfl⟩ := List.cons.inj shape
        exact ⟨rfl, others, rfl⟩

theorem atText_flags (x y : String) (delta : Option String) (flags : List String) :
    atText kind x y delta ((flags.map .atom).map (partOf kind)) =
      .fragments
          [.punct "(at ", atCoordinate x, .punct " ", .source y, .punct " ", .rotation delta] ++
        placedAll kind ((flags.map .atom).map (partOf kind)) ++ .punct ")" := by
  rw [atText, if_pos (all_isSome_atom?.mpr ⟨flags, rfl⟩)]

theorem span_placement (kind : String) (numbers : List String) {flags : List String}
    (isNumber : ∀ text ∈ numbers, Number.isNumber text = true)
    (isFlags : ∀ text ∈ flags.head?, Number.isNumber text = false) :
    (((numbers ++ flags).map .atom).map (partOf kind)).takeWhile (!isFlag ·) =
        (numbers.map .atom).map (partOf kind) ∧
      (((numbers ++ flags).map .atom).map (partOf kind)).dropWhile (!isFlag ·) =
        (flags.map .atom).map (partOf kind) := by
  have front : ∀ part ∈ (numbers.map .atom).map (partOf kind), (!isFlag part) = true := by
    intro part member
    obtain ⟨item, inItems, rfl⟩ := List.mem_map.mp member
    obtain ⟨text, inNumbers, rfl⟩ := List.mem_map.mp inItems
    simp [isFlag_atom, isNumber text inNumbers]
  have back : ∀ part ∈ ((flags.map .atom).map (partOf kind)).head?, (!isFlag part) = false := by
    intro part member
    cases flags with
    | nil => cases member
    | cons text rest =>
      cases member
      simp [isFlag_atom, isFlags text rfl]
  simp only [List.map_append]
  rw [List.takeWhile_append_of_pos front, List.dropWhile_append_of_pos front]
  cases shape : (flags.map .atom).map (partOf kind) with
  | nil => simp
  | cons part rest =>
    have stop := back part (by rw [shape]; rfl)
    simp [stop]

theorem writeAt_placement {x y : String} {delta : Option String} {flags : List String}
    (placement : IsPlacement x y delta flags) :
    writeAt kind ((placementItems x y delta flags).map (partOf kind)) =
      .fragments
          [.punct "(at ", atCoordinate x, .punct " ", .source y, .punct " ", .rotation delta] ++
        placedAll kind ((flags.map .atom).map (partOf kind)) ++ .punct ")" := by
  have x? : (partOf kind (.atom x)).number? = some x := number?_eq_some.mpr ⟨rfl, placement.x⟩
  have y? : (partOf kind (.atom y)).number? = some y := number?_eq_some.mpr ⟨rfl, placement.y⟩
  rw [← atText_flags]
  cases delta with
  | none =>
    obtain ⟨front, back⟩ := span_placement kind [x, y]
      (by simp [placement.x, placement.y]) placement.flags
    change writeAt kind ((([x, y] ++ flags).map .atom).map (partOf kind)) = _
    simp only [writeAt, front, back, List.map_cons, List.map_nil, x?, y?]
  | some d =>
    have number := placement.delta d rfl
    have d? : (partOf kind (.atom d)).number? = some d := number?_eq_some.mpr ⟨rfl, number⟩
    obtain ⟨front, back⟩ := span_placement kind [x, y, d]
      (by simp [placement.x, placement.y, number]) placement.flags
    change writeAt kind ((([x, y, d] ++ flags).map .atom).map (partOf kind)) = _
    simp only [writeAt, front, back, List.map_cons, List.map_nil, x?, y?, d?]

/-- Items with these numbers before the first flag, and nothing but atoms after it, are a
placement. -/
theorem placement_of_split {items : List Item} (numbers : List String)
    (front : ((items.map (partOf kind)).takeWhile (!isFlag ·)).map Part.number? =
      numbers.map some)
    (back : (((items.map (partOf kind)).dropWhile (!isFlag ·)).all fun flag =>
      flag.atom?.isSome) = true) :
    ∃ flags : List String, items = (numbers ++ flags).map .atom ∧
      (∀ text ∈ numbers, Number.isNumber text = true) ∧
      ∀ text ∈ flags.head?, Number.isNumber text = false := by
  have whole := List.takeWhile_append_dropWhile (p := (!isFlag ·) ∘ partOf kind) (l := items)
  rw [List.takeWhile_map, List.map_map] at front
  rw [List.dropWhile_map] at back
  obtain ⟨flags, isFlags⟩ := all_isSome_atom?.mp back
  obtain ⟨isNumbers, areNumbers⟩ := map_number?.mp front
  refine ⟨flags, ?_, areNumbers, ?_⟩
  · rw [← whole, List.map_append, ← isNumbers, ← isFlags]
  · intro text first
    have stop := List.head?_dropWhile_not ((!isFlag ·) ∘ partOf kind) items
    rw [isFlags, List.head?_map, first] at stop
    simpa [isFlag_atom] using stop

theorem atText_eq_fail {x y : String} {delta : Option String} {flags : List Part}
    (node : (flags.all fun flag => flag.atom?.isSome) ≠ true) :
    atText kind x y delta flags = .fail kind .placement :=
  if_neg node

theorem writeAt_unmet {items : List Item} (unmet : ¬Expectation.placement.Met items) :
    writeAt kind (items.map (partOf kind)) = .fail kind .placement := by
  unfold writeAt
  split
  · rename_i x y front
    refine atText_eq_fail fun back => unmet ?_
    obtain ⟨flags, rfl, areNumbers, isFlags⟩ := placement_of_split [x, y] front back
    exact ⟨x, y, none, flags, rfl, areNumbers x (by simp), areNumbers y (by simp),
      fun _ absent => (by cases absent), isFlags⟩
  · rename_i x y delta front
    refine atText_eq_fail fun back => unmet ?_
    obtain ⟨flags, rfl, areNumbers, isFlags⟩ := placement_of_split [x, y, delta] front back
    refine ⟨x, y, some delta, flags, rfl, areNumbers x (by simp), areNumbers y (by simp), ?_,
      isFlags⟩
    intro text same
    cases same
    exact areNumbers delta (by simp)
  · rfl

theorem writeAt_eq_ok {items : List Item} {fragments : List Template.Fragment}
    (ok : (writeAt kind (items.map (partOf kind))).outcome = .ok fragments) :
    Expectation.placement.Met items := by
  apply Classical.byContradiction
  intro unmet
  rw [writeAt_unmet unmet] at ok
  cases ok

end Placement

end FootprintTemplate.Writer
