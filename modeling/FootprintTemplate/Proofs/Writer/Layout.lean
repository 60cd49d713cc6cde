import FootprintTemplate.Proofs.Writer.Shape

/-! Layouts of nodes. Whatever the rule, a node that can be written is text of its own around items
that are placed one after the other. -/
namespace FootprintTemplate.Writer

open Sexpr (Item unquote)
open Template (Fragment)

/-- The pad that is asked for first, the text before and after the items, and these items. -/
structure Layout where
  ask : Option String := none
  head : List Fragment
  kids : List Item := []
  tail : List Fragment := [.punct ")"]

/-- The text of a node of the given kind. -/
def Layout.draft (kind : String) (layout : Layout) : Text :=
  let text := .fragments layout.head ++ placedAll kind (layout.kids.map (partOf kind)) ++
    .fragments layout.tail
  match layout.ask with
  | none => text
  | some pad => (Draft.ask pad).bind fun _ => text

/-- What a rule makes of the items of a node that it can write. -/
inductive Lays (kind : String) : Rule → List Item → Layout → Prop where
  | generic {rule : Rule} {items : List Item}
      (plain : rule ∈ [.modelOffset, .property, .fallback]) :
      Lays kind rule items { head := [.punct "(", .source kind], kids := items }
  | unconnected {text : String} {rest : List Item} (empty : unquote text = "") :
      Lays kind .pad (.atom text :: rest)
        { head := [.punct "(pad \"", .source (unquote text), .punct "\""], kids := rest }
  | pad {text : String} {rest : List Item} (connected : unquote text ≠ "") :
      Lays kind .pad (.atom text :: rest)
        { ask := some (unquote text)
          head := [.punct "(pad \"", .source (unquote text), .punct "\""]
          kids := rest
          tail := [.punct " ", .net (unquote text), .punct ")"] }
  | xy {x y : String} (numberX : Number.isNumber x = true) (numberY : Number.isNumber y = true) :
      Lays kind .xy [.atom x, .atom y]
        { head := [.punct "(", .source kind, .punct " ", .coordinate x, .punct " ", .source y] }
  | layer {text : String} {rest : List Item} :
      Lays kind .layer (.atom text :: rest)
        { head := [.punct "(layer ", .punct "\"", layerName (unquote text), .punct "\""]
          kids := rest }
  | layers {names : List String} :
      Lays kind .layers (names.map .atom)
        { head := .punct "(layers" :: names.flatMap fun text => layerEntry (unquote text) }
  | at {x y : String} {delta : Option String} {flags : List String}
      (placement : IsPlacement x y delta flags) :
      Lays kind .at (placementItems x y delta flags)
        { head := [.punct "(at ", atCoordinate x, .punct " ", .source y, .punct " ",
            .rotation delta]
          kids := flags.map .atom }
  | effects {items : List Item} :
      Lays kind .effects items
        { head := [.punct "(effects"]
          kids := items
          tail := (if items.any isJustify then []
            else [.punct " ", .punct "(justify", .mirrorFlag false, .punct ")"]) ++ [.punct ")"] }
  | justify {items : List Item} :
      Lays kind .justify items
        { head := [.punct "(justify"]
          kids := items.filter (!isMirrorWord ·)
          tail := [.mirrorFlag (items.any isMirrorWord), .punct ")"] }
  | dropped {rule : Rule} {items : List Item} (skip : rule.disposition = .skip) :
      Lays kind rule items { head := [], tail := [] }

section Rules

variable {kind : String} {items : List Item} {fragments : List Fragment}

theorem Lays.compose_eq {rule : Rule} {layout : Layout} (lays : Lays kind rule items layout) :
    compose rule kind (items.map (partOf kind)) = layout.draft kind := by
  cases lays with
  | generic plain =>
    simp only [List.mem_cons, List.not_mem_nil, or_false] at plain
    obtain rfl | rfl | rfl := plain <;> rfl
  | @unconnected text rest empty =>
    change writePad kind (⟨.atom text, .source text⟩ :: rest.map (partOf kind)) = _
    simp only [writePad, empty, beq_self_eq_true, if_true]
    rfl
  | @pad text rest connected =>
    change writePad kind (⟨.atom text, .source text⟩ :: rest.map (partOf kind)) = _
    simp only [writePad, beq_false_of_ne connected, Bool.false_eq_true, if_false]
    rfl
  | xy numberX numberY => exact writeXy_numbers kind numberX numberY
  | layer => rfl
  | @layers names =>
    -- Nothing stands between the names and the closing parenthesis.
    have none (front : Text) : front ++ placedAll kind [] = front := Draft.append_fragments_nil front
    refine (writeLayers_names kind names).trans ?_
    simp only [Layout.draft, List.map_nil, none]
    rfl
  | «at» placement => exact writeAt_placement placement
  | effects =>
    simp only [compose, writeEffects, any_isKind_justify, Layout.draft, ← Draft.fragments_append,
      ← Draft.append_assoc]
    split <;> rfl
  | justify => exact writeJustify_parts kind items
  | dropped skip => cases rule <;> cases skip <;> rfl

/-- What a rule expects of the items that it writes, if anything. -/
def Rule.expected? : Rule → Option Expectation
  | .pad => some .padIdentifier
  | .layer => some .layerName
  | .layers => some .onlyLayerNames
  | .xy => some .twoNumbers
  | .at => some .placement
  | _ => none

theorem lays_pad (kind text : String) (rest : List Item) :
    ∃ layout, Lays kind .pad (.atom text :: rest) layout := by
  by_cases empty : unquote text = ""
  · exact ⟨_, .unconnected empty⟩
  · exact ⟨_, .pad empty⟩

theorem lays_of_met {rule : Rule}
    (met : ∀ expectation ∈ rule.expected?, expectation.Met items) :
    ∃ layout, Lays kind rule items layout := by
  cases rule with
  | pad =>
    obtain ⟨text, rest, rfl⟩ := met _ rfl
    exact lays_pad kind text rest
  | layer =>
    obtain ⟨text, rest, rfl⟩ := met _ rfl
    exact ⟨_, .layer⟩
  | layers =>
    obtain ⟨names, rfl⟩ := met _ rfl
    exact ⟨_, .layers⟩
  | xy =>
    obtain ⟨x, y, rfl, numberX, numberY⟩ := met _ rfl
    exact ⟨_, .xy numberX numberY⟩
  | «at» =>
    obtain ⟨x, y, delta, flags, rfl, placement⟩ := met _ rfl
    exact ⟨_, .at placement⟩
  | effects => exact ⟨_, .effects⟩
  | justify => exact ⟨_, .justify⟩
  | padNet => exact ⟨_, .dropped rfl⟩
  | skip => exact ⟨_, .dropped rfl⟩
  | modelOffset => exact ⟨_, .generic (by decide)⟩
  | property => exact ⟨_, .generic (by decide)⟩
  | fallback => exact ⟨_, .generic (by decide)⟩

theorem compose_unmet {rule : Rule} {expectation : Expectation}
    (expected : rule.expected? = some expectation) (unmet : ¬expectation.Met items) :
    compose rule kind (items.map (partOf kind)) = .fail kind expectation := by
  cases rule <;> cases expected
  case pad | layer =>
    match items with
    | [] => rfl
    | .node _ _ :: _ => rfl
    | .atom text :: rest => exact absurd ⟨text, rest, rfl⟩ unmet
  case layers => exact writeLayers_unmet unmet
  case xy => exact writeXy_unmet unmet
  case «at» => exact writeAt_unmet unmet

theorem lays_of_ok {rule : Rule}
    (ok : (compose rule kind (items.map (partOf kind))).outcome = .ok fragments) :
    ∃ layout, Lays kind rule items layout := by
  refine lays_of_met fun expectation expected => Classical.byContradiction fun unmet => ?_
  rw [compose_unmet expected unmet] at ok
  cases ok

theorem Lays.kids_subset {rule : Rule} {layout : Layout} (lays : Lays kind rule items layout) :
    layout.kids ⊆ items := by
  cases lays with
  | generic | effects => exact fun _ member => member
  | unconnected | pad | layer => exact fun _ member => List.mem_cons_of_mem _ member
  | xy | layers | dropped => exact List.nil_subset _
  | @«at» x y delta flags =>
    intro item member
    rw [placementItems, List.map_append]
    exact List.mem_cons_of_mem _ (List.mem_cons_of_mem _ (List.mem_append_right _ member))
  | justify => exact fun _ member => (List.mem_filter.mp member).1

end Rules

section Outcomes

variable {kind : String} {items : List Item} {fragments : List Fragment}

theorem Layout.draft_eq_ok {layout : Layout} :
    (layout.draft kind).outcome = .ok fragments ↔
      ∃ inner, (placedAll kind (layout.kids.map (partOf kind))).outcome = .ok inner ∧
        fragments = layout.head ++ inner ++ layout.tail := by
  have plain : (layout.draft kind).outcome = (.fragments layout.head ++
      placedAll kind (layout.kids.map (partOf kind)) ++ .fragments layout.tail : Text).outcome := by
    unfold Layout.draft
    cases layout.ask <;> rfl
  rw [plain, Draft.append_eq_ok]
  constructor
  · rintro ⟨front, tail, ok, isTail, rfl⟩
    obtain ⟨head, inner, isHead, inside, rfl⟩ := Draft.append_eq_ok.mp ok
    cases Except.ok.inj isHead
    cases Except.ok.inj isTail
    exact ⟨inner, inside, rfl⟩
  · rintro ⟨inner, inside, rfl⟩
    exact ⟨_, _, Draft.append_eq_ok.mpr ⟨_, _, rfl, inside, rfl⟩, rfl, rfl⟩

/-- A node that is written is the items of a layout between its own text. -/
theorem exists_layout {rule : Rule}
    (ok : (compose rule kind (items.map (partOf kind))).outcome = .ok fragments) :
    ∃ layout inner, Lays kind rule items layout ∧
      (placedAll kind (layout.kids.map (partOf kind))).outcome = .ok inner ∧
        fragments = layout.head ++ inner ++ layout.tail := by
  obtain ⟨layout, lays⟩ := lays_of_ok ok
  rw [lays.compose_eq] at ok
  obtain ⟨inner, inside, whole⟩ := Layout.draft_eq_ok.mp ok
  exact ⟨layout, inner, lays, inside, whole⟩

theorem Layout.pads_draft {layout : Layout} {inner : List Fragment}
    (ok : (placedAll kind (layout.kids.map (partOf kind))).outcome = .ok inner) :
    (layout.draft kind).pads =
      layout.ask.toList ++ (placedAll kind (layout.kids.map (partOf kind))).pads := by
  have text : (.fragments layout.head ++ placedAll kind (layout.kids.map (partOf kind)) ++
      .fragments layout.tail : Text).pads =
        (placedAll kind (layout.kids.map (partOf kind))).pads := by
    have front : (.fragments layout.head ++ placedAll kind (layout.kids.map (partOf kind)) :
        Text).outcome = .ok (layout.head ++ inner) := Draft.append_eq_ok.mpr ⟨_, _, rfl, ok, rfl⟩
    have head : (Draft.fragments layout.head).outcome = .ok layout.head := rfl
    rw [Draft.pads_append front, Draft.pads_append head]
    exact List.append_nil _
  unfold Layout.draft
  cases layout.ask with
  | none => exact text
  | some pad => exact congrArg ([pad] ++ ·) text

theorem placedAll_dropped {item : Item} {rest : List Item}
    (dropped : (partOf kind item).isDropped kind = true) :
    placedAll kind ((item :: rest).map (partOf kind)) =
      placedAll kind (rest.map (partOf kind)) := by
  simp only [placedAll, List.map_cons, Draft.concat, Part.placed, dropped, if_true,
    Draft.fragments_nil_append]

theorem placedAll_kept {item : Item} {rest : List Item}
    (kept : (partOf kind item).isDropped kind = false) :
    placedAll kind ((item :: rest).map (partOf kind)) =
      .punct " " ++ writeItem (some kind) item ++ placedAll kind (rest.map (partOf kind)) := by
  simp only [placedAll, List.map_cons, Draft.concat, Part.placed, kept]
  rfl

theorem placedAll_kept_eq_ok {item : Item} {rest : List Item}
    (kept : (partOf kind item).isDropped kind = false) :
    (placedAll kind ((item :: rest).map (partOf kind))).outcome = .ok fragments ↔
      ∃ own others, (writeItem (some kind) item).outcome = .ok own ∧
        (placedAll kind (rest.map (partOf kind))).outcome = .ok others ∧
        fragments = .punct " " :: own ++ others := by
  rw [placedAll_kept kept, Draft.append_eq_ok]
  constructor
  · rintro ⟨front, others, ok, okRest, rfl⟩
    obtain ⟨space, own, isSpace, okOwn, rfl⟩ := Draft.append_eq_ok.mp ok
    cases Except.ok.inj isSpace
    exact ⟨own, others, okOwn, okRest, rfl⟩
  · rintro ⟨own, others, okOwn, okRest, rfl⟩
    exact ⟨_, _, Draft.append_eq_ok.mpr ⟨_, _, rfl, okOwn, rfl⟩, okRest, rfl⟩

theorem pads_placedAll_kept {item : Item} {rest : List Item} {own : List Fragment}
    (kept : (partOf kind item).isDropped kind = false)
    (ok : (writeItem (some kind) item).outcome = .ok own) :
    (placedAll kind ((item :: rest).map (partOf kind))).pads =
      (writeItem (some kind) item).pads ++ (placedAll kind (rest.map (partOf kind))).pads := by
  have front : (.punct " " ++ writeItem (some kind) item : Text).outcome =
      .ok (.punct " " :: own) := Draft.append_eq_ok.mpr ⟨_, _, rfl, ok, rfl⟩
  have space : (Draft.punct " ").outcome = .ok [.punct " "] := rfl
  rw [placedAll_kept kept, Draft.pads_append front, Draft.pads_append space]
  rfl

end Outcomes

end FootprintTemplate.Writer
