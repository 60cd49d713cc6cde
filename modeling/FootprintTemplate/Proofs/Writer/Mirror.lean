import FootprintTemplate.NetNamer
import FootprintTemplate.Proofs.Number.Literal
import FootprintTemplate.Proofs.Sexpr.Lexeme
import FootprintTemplate.Proofs.Writer.Shape

/-! Footprints seen from the other face. Mirroring a tree has the same effect on its text as placing
what is written for it on the other face. -/
namespace FootprintTemplate.Writer

open Sexpr (Item Node unquote quoted)
open Template (Filling Fragment fill)

section Tree

/-- The layer on the other face, in quotes. A layer of no face stays as it is written. -/
def mirrorLayer (atom : String) : String :=
  match Layer.swapFace? (unquote atom) with
  | some swapped => quoted swapped
  | none => atom

def mirrorX (x : String) : String :=
  if Number.isPlainZero x then x else Number.mirror x

def mirrorJustify : Item :=
  .node "justify" [.atom "mirror"]

def mirrorEntry (piece : Rewritten) : Item :=
  match piece.source with
  | .atom name => .atom (mirrorLayer name)
  | .node _ _ => piece.result

def mirrorItems : Rule → String → List Rewritten → List Item
  | .xy, _, ⟨.atom x, _⟩ :: rest => .atom (Number.mirror x) :: results rest
  | .at, _, ⟨.atom x, _⟩ :: rest => .atom (mirrorX x) :: results rest
  | .layer, _, ⟨.atom name, _⟩ :: rest => .atom (mirrorLayer name) :: results rest
  | .layers, _, pieces => pieces.map mirrorEntry
  | .effects, _, pieces =>
    if pieces.any (isJustify ·.source) then results pieces
    else results pieces ++ [mirrorJustify]
  | .justify, _, pieces =>
    if pieces.any (isMirrorWord ·.source) then results (pieces.filter (!isMirrorWord ·.source))
    else results pieces ++ [.atom "mirror"]
  | .padNet, _, pieces | .skip, _, pieces => pieces.map Rewritten.source
  | _, _, pieces => results pieces

/-- The tree as seen from the other face. Nodes that are left out stay as they are. -/
def mirrored : Rewriting where
  word := id
  arrange := mirrorItems

/-- The X coordinate of a node that mirroring changes. -/
def mirroredX? : Rule → List Item → Option String
  | .xy, .atom x :: _ => some x
  | .at, .atom x :: _ => if Number.isPlainZero x then none else some x
  | _, _ => none

mutual
/-- No X coordinate that mirroring changes starts with a plus. -/
def PlusFree (parent : Option String) : Item → Prop
  | .atom _ => True
  | .node kind items =>
    (Rule.select parent kind).disposition = .skip ∨
      (∀ x ∈ mirroredX? (Rule.select parent kind) items, x.toList.head? ≠ some '+') ∧
        PlusFreeAll kind items

def PlusFreeAll (kind : String) : List Item → Prop
  | [] => True
  | item :: rest => PlusFree (some kind) item ∧ PlusFreeAll kind rest
end

end Tree

section Faces

/-- One text shows on either face what the other shows on the opposite one. -/
def FacesSwapped (first second : List Fragment) : Prop :=
  ∀ (filling : Filling) (flip : Bool),
    fill { filling with flip := flip } first = fill { filling with flip := !flip } second

theorem FacesSwapped.append {first second before after : List Fragment}
    (start : FacesSwapped first second) (rest : FacesSwapped before after) :
    FacesSwapped (first ++ before) (second ++ after) := by
  intro filling flip
  rw [fill_append, fill_append, start filling flip, rest filling flip]

theorem FacesSwapped.cons {first second : Fragment} {before after : List Fragment}
    (start : FacesSwapped [first] [second]) (rest : FacesSwapped before after) :
    FacesSwapped (first :: before) (second :: after) :=
  start.append rest

theorem FacesSwapped.nil : FacesSwapped [] [] := fun _ _ => rfl

theorem FacesSwapped.punct (text : String) : FacesSwapped [.punct text] [.punct text] :=
  fun _ _ => rfl

theorem FacesSwapped.source (text : String) : FacesSwapped [.source text] [.source text] :=
  fun _ _ => rfl

theorem FacesSwapped.rotation (delta : Option String) :
    FacesSwapped [.rotation delta] [.rotation delta] :=
  fun _ _ => rfl

theorem FacesSwapped.net (pad : String) : FacesSwapped [.net pad] [.net pad] :=
  fun _ _ => rfl

theorem FacesSwapped.faced (flipped plain : String) :
    FacesSwapped [.faced flipped plain] [.faced plain flipped] := by
  intro filling flip
  cases flip <;> rfl

theorem FacesSwapped.mirrorFlag (shown : Bool) :
    FacesSwapped [.mirrorFlag shown] [.mirrorFlag !shown] := by
  intro filling flip
  cases flip <;> cases shown <;> rfl

theorem FacesSwapped.coordinate {x : String} (number : Number.isNumber x = true)
    (noPlus : x.toList.head? ≠ some '+') :
    FacesSwapped [.coordinate x] [.coordinate (Number.mirror x)] := by
  intro filling flip
  have back := Number.mirrorChars_mirror number noPlus
  have forth : (Number.mirror x).toList = Number.mirrorChars x.toList := String.toList_ofList
  cases flip with
  | false => simp [fill, Fragment.fill, back]
  | true => simp [fill, Fragment.fill, forth]

theorem FacesSwapped.atCoordinate {x : String} (number : Number.isNumber x = true)
    (noPlus : Number.isPlainZero x = false → x.toList.head? ≠ some '+') :
    FacesSwapped [atCoordinate x] [atCoordinate (mirrorX x)] := by
  cases zero : Number.isPlainZero x with
  | true =>
    have kept : mirrorX x = x := by simp [mirrorX, zero]
    rw [kept, Writer.atCoordinate, zero]
    exact .source x
  | false =>
    have turned : mirrorX x = Number.mirror x := by simp [mirrorX, zero]
    have nonzero := (Number.isPlainZero_mirror number (noPlus zero)).trans zero
    rw [turned, Writer.atCoordinate, Writer.atCoordinate, zero, nonzero]
    exact .coordinate number (noPlus zero)

theorem FacesSwapped.layerName (atom : String) :
    FacesSwapped [layerName (unquote atom)] [layerName (unquote (mirrorLayer atom))] := by
  unfold mirrorLayer
  cases swap : Layer.swapFace? (unquote atom) with
  | none => simpa [Writer.layerName, swap] using FacesSwapped.source (unquote atom)
  | some swapped =>
    have back : Layer.swapFace? swapped = some (unquote atom) := by
      obtain ⟨chars, found, rfl⟩ := Option.map_eq_some_iff.mp swap
      rw [Layer.swapFace?, String.toList_ofList, Layer.swapFaceChars?_swapped found,
        Option.map_some, String.ofList_toList]
    simpa [Writer.layerName, swap, back, Sexpr.unquote_quoted] using
      FacesSwapped.faced swapped (unquote atom)

theorem layerParts_faceless {name : String} (faceless : Layer.swapFace? name = none) :
    layerParts name = [.source name] := by
  have none := Option.map_eq_none_iff.mp faceless
  unfold layerParts
  split
  · rename_i chars; rw [chars] at none; cases none
  · rename_i chars; rw [chars] at none; cases none
  · rfl

theorem FacesSwapped.layerParts {name swapped : String}
    (swap : Layer.swapFace? name = some swapped) :
    FacesSwapped (layerParts name) (layerParts swapped) := by
  obtain ⟨chars, found, rfl⟩ := Option.map_eq_some_iff.mp swap
  unfold Layer.swapFaceChars? at found
  split at found
  · rename_i shape
    cases Option.some.inj found
    simp only [Writer.layerParts, shape, String.toList_ofList]
    exact .cons (.faced _ _) (.source _)
  · rename_i shape
    cases Option.some.inj found
    simp only [Writer.layerParts, shape, String.toList_ofList]
    exact .cons (.faced _ _) (.source _)
  · cases found

theorem FacesSwapped.layerEntry (atom : String) :
    FacesSwapped (layerEntry (unquote atom)) (layerEntry (unquote (mirrorLayer atom))) := by
  refine .cons (.punct _) (.append ?_ (.punct _))
  unfold mirrorLayer
  cases swap : Layer.swapFace? (unquote atom) with
  | none =>
    simp only [layerParts_faceless swap]
    exact .source _
  | some swapped =>
    simp only [Sexpr.unquote_quoted]
    exact .layerParts swap

end Faces

section Drafts

/-- Where the first draft succeeds so does the second. It asks for the same pads, and the faces of
its text are swapped. -/
def Mirrors (first second : Text) : Prop :=
  ∀ fragments, first.outcome = .ok fragments →
    ∃ turned, second.outcome = .ok turned ∧ second.pads = first.pads ∧
      FacesSwapped fragments turned

theorem Mirrors.fragments {first second : List Fragment} (swapped : FacesSwapped first second) :
    Mirrors (.fragments first) (.fragments second) := by
  intro fragments ok
  cases Except.ok.inj ok
  exact ⟨second, rfl, rfl, swapped⟩

theorem Mirrors.punct (text : String) : Mirrors (.punct text) (.punct text) :=
  .fragments (.punct text)

theorem Mirrors.source (text : String) : Mirrors (.source text) (.source text) :=
  .fragments (.source text)

theorem Mirrors.fail (kind : String) (expected : Expectation) (second : Text) :
    Mirrors (.fail kind expected) second := by
  intro fragments ok
  cases ok

theorem Mirrors.of_ok {first second : Text}
    (given : ∀ fragments, first.outcome = .ok fragments → Mirrors first second) :
    Mirrors first second :=
  fun fragments ok => given fragments ok fragments ok

theorem Mirrors.append {first second before after : Text} (start : Mirrors first second)
    (rest : Mirrors before after) : Mirrors (first ++ before) (second ++ after) := by
  intro fragments ok
  obtain ⟨one, two, okOne, okTwo, rfl⟩ := Draft.append_eq_ok.mp ok
  obtain ⟨turnedOne, okTurned, samePads, swapped⟩ := start one okOne
  obtain ⟨turnedTwo, okTurned', samePads', swapped'⟩ := rest two okTwo
  refine ⟨turnedOne ++ turnedTwo, Draft.append_eq_ok.mpr ⟨_, _, okTurned, okTurned', rfl⟩, ?_,
    swapped.append swapped'⟩
  rw [Draft.pads_append okTurned, Draft.pads_append okOne, samePads, samePads']

theorem Mirrors.ask (pad : String) {first second : Text} (rest : Mirrors first second) :
    Mirrors ((Draft.ask pad).bind fun _ => first) ((Draft.ask pad).bind fun _ => second) := by
  intro fragments ok
  obtain ⟨turned, okTurned, samePads, swapped⟩ := rest fragments ok
  exact ⟨turned, okTurned, congrArg ([pad] ++ ·) samePads, swapped⟩

end Drafts

section Items

variable {kind : String}

def turn (kind : String) (item : Item) : Item :=
  mirrored.item (some kind) item

theorem isDropped_turn (item : Item) :
    (partOf kind (turn kind item)).isDropped kind = (partOf kind item).isDropped kind := by
  cases item <;> rfl

theorem isKind_turn (item : Item) (other : String) :
    (partOf kind (turn kind item)).isKind other = (partOf kind item).isKind other := by
  cases item <;> rfl

def AllMirror (kind : String) (items : List Item) : Prop :=
  ∀ item ∈ items, Mirrors (writeItem (some kind) item) (writeItem (some kind) (turn kind item))

theorem Mirrors.placedAll {items : List Item} (all : AllMirror kind items) :
    Mirrors (placedAll kind (items.map (partOf kind)))
      (placedAll kind ((items.map (turn kind)).map (partOf kind))) := by
  induction items with
  | nil => exact .fragments .nil
  | cons item rest ih =>
    refine Mirrors.append ?_ (ih fun other member => all other (List.mem_cons_of_mem _ member))
    unfold Part.placed
    rw [isDropped_turn]
    split
    · exact .fragments .nil
    · exact .append (.punct " ") (all item List.mem_cons_self)

theorem results_items (items : List Item) :
    results (mirrored.items kind items) = items.map (turn kind) := by
  rw [results, Rewriting.items_eq_map, List.map_map]
  rfl

theorem turn_atoms (texts : List String) :
    (texts.map Item.atom).map (turn kind) = texts.map .atom := by
  rw [List.map_map]
  rfl

theorem isMirrorWord_turn (item : Item) : isMirrorWord (turn kind item) = isMirrorWord item := by
  cases item <;> rfl

end Items

section Rules

variable {kind : String} {items : List Item} (all : AllMirror kind items)

def writeTurned (rule : Rule) (kind : String) (items : List Item) : Text :=
  compose rule kind ((mirrorItems rule kind (mirrored.items kind items)).map (partOf kind))

include all

theorem mirrors_generic :
    Mirrors (writeGeneric kind (items.map (partOf kind)))
      (writeGeneric kind ((items.map (turn kind)).map (partOf kind))) :=
  .append (.append (.append (.punct "(") (.source kind)) (.placedAll all)) (.punct ")")

theorem mirrors_pad :
    Mirrors (compose .pad kind (items.map (partOf kind))) (writeTurned .pad kind items) := by
  have same : mirrorItems .pad kind (mirrored.items kind items) = items.map (turn kind) :=
    results_items items
  rw [writeTurned, same]
  match items with
  | [] => exact .fail _ _ _
  | .node _ _ :: _ => exact .fail _ _ _
  | .atom text :: rest =>
    have inner : Mirrors (placedAll kind (rest.map (partOf kind)))
        (placedAll kind ((rest.map (turn kind)).map (partOf kind))) :=
      .placedAll fun other member => all other (List.mem_cons_of_mem _ member)
    have opening := Mirrors.append (.append (.append (.punct "(pad \"") (.source (unquote text)))
      (.punct "\"")) inner
    change Mirrors (writePad kind (⟨.atom text, .source text⟩ :: rest.map (partOf kind)))
      (writePad kind (⟨.atom text, .source text⟩ :: (rest.map (turn kind)).map (partOf kind)))
    simp only [writePad]
    split
    · exact opening.append (.punct ")")
    · exact .ask _ (opening.append
        (.fragments (.cons (.punct " ") (.cons (.net _) (.punct ")")))))

theorem mirrors_layer :
    Mirrors (compose .layer kind (items.map (partOf kind))) (writeTurned .layer kind items) := by
  match items with
  | [] => exact .fail _ _ _
  | .node _ _ :: _ => exact .fail _ _ _
  | .atom text :: rest =>
    have inner : Mirrors (placedAll kind (rest.map (partOf kind)))
        (placedAll kind ((rest.map (turn kind)).map (partOf kind))) :=
      .placedAll fun other member => all other (List.mem_cons_of_mem _ member)
    have same : mirrorItems .layer kind (mirrored.items kind (.atom text :: rest)) =
        .atom (mirrorLayer text) :: rest.map (turn kind) := congrArg _ (results_items rest)
    have name : FacesSwapped
        [.punct "(layer ", .punct "\"", layerName (unquote text), .punct "\""]
        [.punct "(layer ", .punct "\"", layerName (unquote (mirrorLayer text)), .punct "\""] :=
      .cons (.punct _) (.cons (.punct _) (.cons (.layerName text) (.punct _)))
    rw [writeTurned, same]
    exact .append (.append (.fragments name) inner) (.punct ")")

theorem mirrors_effects :
    Mirrors (compose .effects kind (items.map (partOf kind)))
      (writeTurned .effects kind items) := by
  have same : ((items.map (turn kind)).map (partOf kind)).any (Part.isKind "justify") =
      (items.map (partOf kind)).any (Part.isKind "justify") := by
    simp only [List.any_map, Function.comp_def, isKind_turn]
  have justify : (mirrored.items kind items).any (isJustify ·.source) =
      (items.map (partOf kind)).any (Part.isKind "justify") :=
    (mirrored.any_source ..).trans (any_isKind_justify ..).symm
  have start : Mirrors (.punct "(effects" ++ Writer.placedAll kind (items.map (partOf kind)))
      (.punct "(effects" ++ Writer.placedAll kind ((items.map (turn kind)).map (partOf kind))) :=
    .append (.punct _) (.placedAll all)
  simp only [writeTurned, mirrorItems, justify, results_items]
  cases found : (items.map (partOf kind)).any (Part.isKind "justify") with
  | true =>
    simp only [compose, writeEffects, same, found, if_true]
    exact .append (.append start (.fragments .nil)) (.punct ")")
  | false =>
    -- The new child is the last of the items, so it stands where the flag stood.
    have shape : writeEffects kind ((items.map (turn kind) ++ [mirrorJustify]).map (partOf kind)) =
        .punct "(effects" ++ Writer.placedAll kind ((items.map (turn kind)).map (partOf kind)) ++
          .fragments [.punct " ", .punct "(justify", .mirrorFlag true, .punct ")"] ++
          .punct ")" := by
      have last : Writer.placedAll kind ([mirrorJustify].map (partOf kind)) =
          .fragments [.punct " ", .punct "(justify", .mirrorFlag true, .punct ")"] := rfl
      have isLast : ([mirrorJustify].map (partOf kind)).any
          (Part.isKind "justify") = true := rfl
      simp only [writeEffects, List.map_append, placedAll_append, last, List.any_append, isLast,
        Bool.or_true, if_true, ← Draft.append_assoc, Draft.append_fragments_nil]
    simp only [compose, shape, Bool.false_eq_true, if_false]
    simp only [writeEffects, found, Bool.false_eq_true, if_false]
    exact .append (.append start (.fragments (.cons (.punct _) (.cons (.punct _)
      (.cons (.mirrorFlag false) (.punct _)))))) (.punct ")")

omit all in
theorem mirrorItems_justify : mirrorItems .justify kind (mirrored.items kind items) =
    (items.filter (!isMirrorWord ·)).map (turn kind) ++
      if items.any isMirrorWord then [] else [Item.atom "mirror"] := by
  rw [mirrorItems, mirrored.any_source, mirrored.filter_source kind items (!isMirrorWord ·)]
  cases found : items.any isMirrorWord with
  | true => simp only [if_true, List.append_nil, results_items]
  | false =>
    have none : items.filter (!isMirrorWord ·) = items := by
      refine List.filter_eq_self.mpr fun item member => ?_
      simpa using List.any_eq_false.mp found item member
    simp only [Bool.false_eq_true, if_false, none, results_items]

omit all in
theorem any_justify : (mirrorItems .justify kind (mirrored.items kind items)).any isMirrorWord =
    !items.any isMirrorWord := by
  have rest : ((items.filter (!isMirrorWord ·)).map (turn kind)).any isMirrorWord = false := by
    simp only [List.any_map, List.any_eq_false, Function.comp_apply, isMirrorWord_turn]
    intro item member
    simpa using (List.mem_filter.mp member).2
  rw [mirrorItems_justify, List.any_append, rest, Bool.false_or]
  cases items.any isMirrorWord <;> rfl

omit all in
theorem filter_justify : (mirrorItems .justify kind (mirrored.items kind items)).filter
    (!isMirrorWord ·) = (items.filter (!isMirrorWord ·)).map (turn kind) := by
  have word : (if items.any isMirrorWord then [] else [Item.atom "mirror"]).filter
      (!isMirrorWord ·) = [] := by
    cases items.any isMirrorWord <;> rfl
  rw [mirrorItems_justify, List.filter_append, word, List.append_nil, List.filter_map]
  simp only [Function.comp_def, isMirrorWord_turn, List.filter_filter, Bool.and_self]

theorem mirrors_justify :
    Mirrors (compose .justify kind (items.map (partOf kind)))
      (writeTurned .justify kind items) := by
  have others : AllMirror kind (items.filter (!isMirrorWord ·)) :=
    fun item member => all item (List.mem_filter.mp member).1
  have flag : FacesSwapped [.mirrorFlag (items.any isMirrorWord), .punct ")"]
      [.mirrorFlag !(items.any isMirrorWord), .punct ")"] :=
    .cons (.mirrorFlag _) (.punct _)
  simp only [writeTurned, compose, writeJustify_parts, filter_justify, any_justify]
  exact .append (.append (.punct _) (.placedAll others)) (.fragments flag)

omit all in
theorem mirrors_at
    (noPlus : ∀ x ∈ mirroredX? .at items, x.toList.head? ≠ some '+') :
    Mirrors (compose .at kind (items.map (partOf kind))) (writeTurned .at kind items) := by
  refine .of_ok fun fragments ok => ?_
  obtain ⟨x, y, delta, flags, rfl, placement⟩ := writeAt_eq_ok ok
  have noPlusX : Number.isPlainZero x = false → x.toList.head? ≠ some '+' := by
    intro nonzero
    exact noPlus x (by simp [placementItems, mirroredX?, nonzero])
  have same : mirrorItems .at kind (mirrored.items kind (placementItems x y delta flags)) =
      placementItems (mirrorX x) y delta flags := by
    change Item.atom (mirrorX x) :: results (mirrored.items kind _) = _
    rw [results_items]
    exact congrArg _ (turn_atoms (y :: (delta.toList ++ flags)))
  have stays : IsPlacement (mirrorX x) y delta flags := by
    refine ⟨?_, placement.y, placement.delta, placement.flags⟩
    cases zero : Number.isPlainZero x with
    | true => simpa [mirrorX, zero] using placement.x
    | false => simpa [mirrorX, zero] using Number.isNumber_mirror placement.x (noPlusX zero)
  have flagsMirror : AllMirror kind (flags.map .atom) := by
    intro item member
    obtain ⟨text, inFlags, rfl⟩ := List.mem_map.mp member
    exact .source text
  have rest := Mirrors.placedAll flagsMirror
  rw [turn_atoms] at rest
  simp only [writeTurned, same, compose, writeAt_placement placement, writeAt_placement stays]
  exact .append (.append (.fragments (.cons (.punct _)
    (.cons (.atCoordinate placement.x noPlusX) (.cons (.punct _) (.cons (.source _)
      (.cons (.punct _) (.rotation _))))))) rest) (.punct ")")

omit all in
theorem mirrors_xy (noPlus : ∀ x ∈ mirroredX? .xy items, x.toList.head? ≠ some '+') :
    Mirrors (compose .xy kind (items.map (partOf kind))) (writeTurned .xy kind items) := by
  refine .of_ok fun fragments ok => ?_
  obtain ⟨x, y, rfl, numberX, numberY⟩ := writeXy_eq_ok ok
  have turned : writeTurned .xy kind [.atom x, .atom y] =
      writeXy kind ([.atom (Number.mirror x), .atom y].map (partOf kind)) := rfl
  have plain : compose .xy kind ([.atom x, .atom y].map (partOf kind)) = _ :=
    writeXy_numbers kind numberX numberY
  rw [plain, turned, writeXy_numbers kind (Number.isNumber_mirror numberX (noPlus x rfl)) numberY]
  exact .fragments (.cons (.punct _) (.cons (.source _) (.cons (.punct _)
    (.cons (.coordinate numberX (noPlus x rfl)) (.cons (.punct _)
      (.cons (.source _) (.punct _)))))))

omit all in
theorem mirrors_layers :
    Mirrors (compose .layers kind (items.map (partOf kind))) (writeTurned .layers kind items) := by
  refine .of_ok fun fragments ok => ?_
  obtain ⟨names, rfl⟩ := writeLayers_eq_ok ok
  have same : mirrorItems .layers kind (mirrored.items kind (names.map .atom)) =
      (names.map mirrorLayer).map .atom := by
    simp [mirrorItems, Rewriting.items_eq_map, mirrorEntry, Function.comp_def]
  have entries : ∀ names : List String,
      FacesSwapped (names.flatMap fun text => layerEntry (unquote text))
        ((names.map mirrorLayer).flatMap fun text => layerEntry (unquote text)) := by
    intro names
    induction names with
    | nil => exact .nil
    | cons name rest ih => exact .append (.layerEntry name) ih
  simp only [writeTurned, same, compose, writeLayers_names]
  exact .append (.append (.punct _) (.fragments (entries names))) (.punct _)

omit all in
theorem mirrors_dropped {rule : Rule} (dropped : rule.disposition = .skip) :
    Mirrors (compose rule kind (items.map (partOf kind))) (writeTurned rule kind items) := by
  cases rule <;> first | exact .fragments .nil | cases dropped

theorem mirrors_compose {rule : Rule}
    (noPlus : ∀ x ∈ mirroredX? rule items, x.toList.head? ≠ some '+') :
    Mirrors (compose rule kind (items.map (partOf kind))) (writeTurned rule kind items) := by
  have generic (results : mirrorItems rule kind (mirrored.items kind items) =
      items.map (turn kind)) (writes : compose rule kind = writeGeneric kind) :
      Mirrors (compose rule kind (items.map (partOf kind))) (writeTurned rule kind items) := by
    rw [writeTurned, results, writes]
    exact mirrors_generic all
  cases rule with
  | pad => exact mirrors_pad all
  | xy => exact mirrors_xy noPlus
  | layer => exact mirrors_layer all
  | layers => exact mirrors_layers
  | «at» => exact mirrors_at noPlus
  | effects => exact mirrors_effects all
  | justify => exact mirrors_justify all
  | padNet => exact mirrors_dropped rfl
  | skip => exact mirrors_dropped rfl
  | modelOffset => exact generic (results_items items) rfl
  | property => exact generic (results_items items) rfl
  | fallback => exact generic (results_items items) rfl

end Rules

mutual
theorem mirrors_item (parent : Option String) (item : Item) (plusFree : PlusFree parent item) :
    Mirrors (writeItem parent item) (writeItem parent (mirrored.item parent item)) := by
  cases item with
  | atom text => exact .source text
  | node kind items =>
    have turned : writeItem parent (mirrored.item parent (.node kind items)) =
        writeTurned (Rule.select parent kind) kind items := writeItem_node ..
    rw [writeItem_node, turned]
    -- A node that is left out writes nothing, whatever its items are.
    cases plusFree with
    | inl dropped => exact mirrors_dropped dropped
    | inr free => exact mirrors_compose (mirrors_items kind items free.2) free.1

theorem mirrors_items (kind : String) (items : List Item) (plusFree : PlusFreeAll kind items) :
    AllMirror kind items := by
  cases items with
  | nil => exact fun _ member => nomatch member
  | cons item rest =>
    exact List.forall_mem_cons.mpr
      ⟨mirrors_item (some kind) item plusFree.1, mirrors_items kind rest plusFree.2⟩
end

end FootprintTemplate.Writer
