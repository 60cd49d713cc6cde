import FootprintTemplate.Preview.Placement
import FootprintTemplate.Proofs.Number.Literal
import FootprintTemplate.Proofs.Script.Literal
import FootprintTemplate.Proofs.Sexpr.Grammar
import FootprintTemplate.Proofs.Writer.Shape

/-! Footprints as they stand on a board. What is written for a tree, filled in for a placement, is
the text of the placed tree. -/
namespace FootprintTemplate.Writer

open Number (Double)
open Preview (BoardNet)
open Sexpr (Item Node unquote quoted quotedChars)
open Template (Filling Fragment fill)

section Tree

/-- How a footprint stands on a board. -/
structure Stance where
  flip : Bool
  rotation : Double
  /-- The net of a pad. -/
  net : String → BoardNet

/-- A text of the source once a template literal has been evaluated. -/
def cooked (text : String) : String :=
  String.ofList (Script.lineFeeds text.toList)

theorem cooked_eq_self {text : String} (plain : '\r' ∉ text.toList) : cooked text = text := by
  rw [cooked, Script.lineFeeds_eq_self plain, String.ofList_toList]

def isLeftOut (parent : Option String) : Item → Bool
  | .atom _ => false
  | .node kind _ => (Rule.select parent kind).disposition == .skip

def kept (kind : String) (pieces : List Rewritten) : List Item :=
  results (pieces.filter (!isLeftOut (some kind) ·.source))

def numberItem (value : Double) : Item :=
  .atom (String.ofList (Fragment.numberChars value))

def placedX (flip : Bool) (x : String) : Item :=
  numberItem (Number.valueOf (if flip then Number.mirrorChars x.toList else x.toList))

/-- A plain zero is left as it is written. -/
def placedAtX (flip : Bool) (x : String) : Item :=
  if Number.isPlainZero x then .atom x else placedX flip x

def fullTurn : Double :=
  .ofDecimal false 360 0

/-- The rotation with a further one added, brought into one turn. -/
def turnedBy (rotation : Double) : Option String → Double
  | none => rotation
  | some delta =>
    (((rotation.add (Number.valueOf delta.toList)).rem fullTurn).add fullTurn).rem fullTurn

/-- The further rotation of a placement and its flags. -/
def takeDelta : List Rewritten → Option String × List Rewritten
  | ⟨.atom text, result⟩ :: rest =>
    if Number.isNumber text then (some text, rest) else (none, ⟨.atom text, result⟩ :: rest)
  | pieces => (none, pieces)

def seenLayer (flip : Bool) (name : String) : String :=
  if flip then (Layer.swapFace? name).getD name else name

def placedLayer (flip : Bool) (name : String) : Item :=
  .atom (quoted (if (Layer.swapFace? name).isSome then seenLayer flip name else cooked name))

def placedEntry (flip : Bool) (item : Item) : Item :=
  .atom (quoted (cooked (seenLayer flip (unquote (item.atom?.getD "")))))

def netItem (net : BoardNet) : Item :=
  .node "net" [.atom (toString net.index),
    .atom (String.ofList (Script.stringLiteral net.name.toList))]

def mirrorWords (shown : Bool) : List Item :=
  if shown then [.atom "mirror"] else []

def placedItems (stance : Stance) : Rule → String → List Rewritten → List Item
  | .pad, kind, ⟨.atom text, _⟩ :: rest =>
    .atom (quoted (cooked (unquote text))) :: (kept kind rest ++
      if unquote text == "" then [] else [netItem (stance.net (unquote text))])
  | .xy, _, ⟨.atom x, _⟩ :: rest => placedX stance.flip x :: rest.map Rewritten.source
  | .layer, kind, ⟨.atom text, _⟩ :: rest =>
    placedLayer stance.flip (unquote text) :: kept kind rest
  | .layers, _, pieces => pieces.map (placedEntry stance.flip ·.source)
  | .at, _, ⟨.atom x, _⟩ :: y :: rest =>
    placedAtX stance.flip x :: y.source ::
      numberItem (turnedBy stance.rotation (takeDelta rest).1) :: results (takeDelta rest).2
  | .effects, kind, pieces =>
    kept kind pieces ++
      if pieces.any (isJustify ·.source) then [] else [.node "justify" (mirrorWords stance.flip)]
  | .justify, kind, pieces =>
    kept kind (pieces.filter (!isMirrorWord ·.source)) ++
      mirrorWords (pieces.any (isMirrorWord ·.source) != stance.flip)
  | _, kind, pieces => kept kind pieces

/-- The tree as it stands on the board. -/
def placed (stance : Stance) : Rewriting where
  word := cooked
  arrange := placedItems stance

end Tree

section Drafts

/-- What fills the places of a draft that asks for these pads. -/
structure Stance.Fits (stance : Stance) (pads : List String) (filling : Filling) : Prop where
  flip : filling.flip = stance.flip
  rotation : filling.rotation = .inl stance.rotation
  net : ∀ pad ∈ pads, filling.net pad = (stance.net pad).text

variable {stance : Stance}

/-- Where the draft succeeds, this is its text once it is filled in. -/
def Fills (stance : Stance) (draft : Text) (chars : List Char) : Prop :=
  ∀ fragments, draft.outcome = .ok fragments →
    ∀ filling, stance.Fits draft.pads filling → fill filling fragments = chars

theorem Fills.of_ok {draft : Text} {chars : List Char}
    (given : ∀ fragments, draft.outcome = .ok fragments → Fills stance draft chars) :
    Fills stance draft chars :=
  fun fragments ok => given fragments ok fragments ok

theorem Fills.fragments {pieces : List Fragment} {chars : List Char}
    (filled : ∀ filling, stance.Fits [] filling → fill filling pieces = chars) :
    Fills stance (.fragments pieces) chars := by
  intro fragments ok filling fits
  cases Except.ok.inj ok
  exact filled filling fits

theorem Fills.punct (text : String) : Fills stance (.punct text) text.toList :=
  .fragments fun _ _ => by simp [fill, Fragment.fill]

theorem Fills.source (text : String) : Fills stance (.source text) (cooked text).toList :=
  .fragments fun _ _ => by simp [fill, Fragment.fill, cooked]

theorem Fills.fail (kind : String) (expected : Expectation) (chars : List Char) :
    Fills stance (.fail kind expected) chars := by
  intro fragments ok
  cases ok

theorem Stance.Fits.of_subset {pads asked : List String} {filling : Filling}
    (fits : stance.Fits pads filling) (subset : asked ⊆ pads) : stance.Fits asked filling :=
  ⟨fits.flip, fits.rotation, fun pad member => fits.net pad (subset member)⟩

theorem Fills.append {first second : Text} {before after : List Char}
    (start : Fills stance first before) (rest : Fills stance second after) :
    Fills stance (first ++ second) (before ++ after) := by
  intro fragments ok filling fits
  obtain ⟨one, two, okOne, okTwo, rfl⟩ := Draft.append_eq_ok.mp ok
  rw [Draft.pads_append okOne] at fits
  have head := start one okOne filling (fits.of_subset (List.subset_append_left _ _))
  have tail := rest two okTwo filling (fits.of_subset (List.subset_append_right _ _))
  rw [← head, ← tail, fill_append]

theorem Fills.ask (pad : String) {draft : Text} {chars : List Char}
    (start : Fills stance draft chars) :
    Fills stance ((Draft.ask pad).bind fun _ =>
        draft ++ .fragments [.punct " ", .net pad, .punct ")"])
      (chars ++ (' ' :: ((stance.net pad).text ++ [')']))) := by
  intro fragments ok filling fits
  have ok : (draft ++ Draft.fragments [.punct " ", .net pad, .punct ")"]).outcome =
      .ok fragments := ok
  obtain ⟨one, two, okOne, okTwo, rfl⟩ := Draft.append_eq_ok.mp ok
  have pads : (draft ++ Draft.fragments [.punct " ", .net pad, .punct ")"]).pads = draft.pads := by
    rw [Draft.pads_append okOne]
    exact List.append_nil _
  have asked : ((Draft.ask pad).bind fun _ =>
      draft ++ Draft.fragments [.punct " ", .net pad, .punct ")"]).pads = pad :: draft.pads :=
    congrArg ([pad] ++ ·) pads
  rw [asked] at fits
  have head := start one okOne filling (fits.of_subset (List.subset_cons_self _ _))
  have net := fits.net pad List.mem_cons_self
  cases Except.ok.inj okTwo
  rw [← head, ← net, fill_append]
  simp [fill, Fragment.fill]

end Drafts

section Items

variable {stance : Stance} {kind : String}

def AllFill (stance : Stance) (kind : String) (items : List Item) : Prop :=
  ∀ item ∈ items, isLeftOut (some kind) item = false →
    Fills stance (writeItem (some kind) item) ((placed stance).item (some kind) item).chars

theorem Fills.placedAll {items : List Item} (all : AllFill stance kind items) :
    Fills stance (placedAll kind (items.map (partOf kind)))
      (Item.charsAll (kept kind ((placed stance).items kind items))) := by
  induction items with
  | nil => exact .fragments fun _ _ => rfl
  | cons item rest ih =>
    have others := ih fun other member => all other (List.mem_cons_of_mem _ member)
    have dropped : (partOf kind item).isDropped kind = isLeftOut (some kind) item := by
      cases item <;> rfl
    cases leftOut : isLeftOut (some kind) item with
    | true =>
      have same : kept kind ((placed stance).items kind (item :: rest)) =
          kept kind ((placed stance).items kind rest) := by
        simp [kept, Rewriting.items, leftOut]
      have shape : Writer.placedAll kind ((item :: rest).map (partOf kind)) =
          Writer.placedAll kind (rest.map (partOf kind)) := by
        simp only [Writer.placedAll, List.map_cons, Draft.concat, Part.placed, dropped, leftOut,
          if_true, Draft.fragments_nil_append]
      rwa [same, shape]
    | false =>
      have same : kept kind ((placed stance).items kind (item :: rest)) =
          (placed stance).item (some kind) item ::
            kept kind ((placed stance).items kind rest) := by
        simp [kept, results, Rewriting.items, leftOut]
      have shape : Writer.placedAll kind ((item :: rest).map (partOf kind)) =
          .punct " " ++ writeItem (some kind) item ++
            Writer.placedAll kind (rest.map (partOf kind)) := by
        simp only [Writer.placedAll, List.map_cons, Draft.concat, Part.placed, dropped, leftOut]
        rfl
      rw [same, shape]
      exact .append (.append (.punct " ") (all item List.mem_cons_self leftOut)) others

theorem chars_netItem (net : BoardNet) : (netItem net).chars = net.text := by
  have opening : "(net ".toList = '(' :: "net".toList ++ [' '] := rfl
  unfold BoardNet.text Preview.netText
  rw [opening]
  simp only [netItem, Item.chars, Item.charsAll, String.toList_ofList, List.cons_append,
    List.append_assoc, List.nil_append, List.append_nil]

end Items

section Rules

variable {stance : Stance} {kind : String} {items : List Item}

def placedNode (stance : Stance) (rule : Rule) (kind : String) (items : List Item) : Item :=
  .node (cooked kind) (placedItems stance rule kind ((placed stance).items kind items))

theorem Fills.of_eq {draft : Text} {chars other : List Char} (fills : Fills stance draft chars)
    (same : chars = other) : Fills stance draft other :=
  same ▸ fills

theorem fills_generic (all : AllFill stance kind items) :
    Fills stance (writeGeneric kind (items.map (partOf kind)))
      (Item.chars (.node (cooked kind) (kept kind ((placed stance).items kind items)))) := by
  have fills := Fills.append (.append (.append (.punct "(") (.source kind)) (.placedAll all))
    (.punct ")")
  exact fills.of_eq (by simp [Item.chars])

theorem fills_pad (all : AllFill stance "pad" items) :
    Fills stance (compose .pad "pad" (items.map (partOf "pad")))
      (placedNode stance .pad "pad" items).chars := by
  match items with
  | [] => exact .fail _ _ _
  | .node _ _ :: _ => exact .fail _ _ _
  | .atom text :: rest =>
    have inner : Fills stance (placedAll "pad" (rest.map (partOf "pad")))
        (Item.charsAll (kept "pad" ((placed stance).items "pad" rest))) :=
      .placedAll fun other member => all other (List.mem_cons_of_mem _ member)
    have opening := Fills.append (.append (.append (.punct "(pad \"") (.source (unquote text)))
      (.punct "\"")) inner
    change Fills stance (writePad "pad" (⟨.atom text, .source text⟩ :: rest.map (partOf "pad"))) _
    simp only [writePad, placedNode, Rewriting.items, placedItems]
    split
    · exact (opening.append (.punct ")")).of_eq (by
        simp [Item.chars, Item.charsAll, quotedChars, cooked_eq_self])
    · exact (Fills.ask _ opening).of_eq (by
        simp [Item.chars, Item.charsAll, quotedChars, cooked_eq_self, Item.charsAll_append,
          chars_netItem])

theorem fill_layerName {filling : Filling} (fits : stance.Fits [] filling) (name : String) :
    fill filling [.punct "(layer ", .punct "\"", layerName name, .punct "\""] =
      "(layer ".toList ++ (placedLayer stance.flip name).chars := by
  unfold layerName placedLayer seenLayer
  cases swap : Layer.swapFace? name with
  | none => simp [fill, Fragment.fill, Item.chars, quotedChars, cooked]
  | some swapped =>
    cases flip : stance.flip <;>
      simp [fill, Fragment.fill, Item.chars, quotedChars, fits.flip, flip]

theorem fills_layer (all : AllFill stance "layer" items) :
    Fills stance (compose .layer "layer" (items.map (partOf "layer")))
      (placedNode stance .layer "layer" items).chars := by
  match items with
  | [] => exact .fail _ _ _
  | .node _ _ :: _ => exact .fail _ _ _
  | .atom text :: rest =>
    have inner : Fills stance (placedAll "layer" (rest.map (partOf "layer")))
        (Item.charsAll (kept "layer" ((placed stance).items "layer" rest))) :=
      .placedAll fun other member => all other (List.mem_cons_of_mem _ member)
    have name : Fills stance
        (.fragments [.punct "(layer ", .punct "\"", layerName (unquote text), .punct "\""])
        ("(layer ".toList ++ (placedLayer stance.flip (unquote text)).chars) :=
      .fragments fun filling fits => fill_layerName fits _
    exact (Fills.append (.append name inner) (.punct ")")).of_eq (by
      simp [placedNode, Rewriting.items, placedItems, Item.chars, Item.charsAll, cooked_eq_self])

theorem lineFeeds_number {text : String} (number : Number.isNumber text = true) :
    Script.lineFeeds text.toList = text.toList := by
  refine Script.lineFeeds_eq_self fun carriage => ?_
  have literal := Number.isLiteralChar_of_isNumber number '\r' carriage
  revert literal
  decide

theorem fills_xy : Fills stance (compose .xy kind (items.map (partOf kind)))
    (placedNode stance .xy kind items).chars := by
  refine .of_ok fun fragments ok => ?_
  obtain ⟨x, y, rfl, numberX, numberY⟩ := writeXy_eq_ok ok
  have plain : compose .xy kind ([.atom x, .atom y].map (partOf kind)) = _ :=
    writeXy_numbers kind numberX numberY
  rw [plain]
  refine .fragments fun filling fits => ?_
  simp [fill, Fragment.fill, placedNode, Rewriting.items, placedItems, Item.chars, Item.charsAll,
    placedX, numberItem, fits.flip, lineFeeds_number numberY, cooked]

theorem fill_layerParts {filling : Filling} (fits : stance.Fits [] filling) (name : String) :
    fill filling (layerParts name) = (cooked (seenLayer stance.flip name)).toList := by
  have swap : Layer.swapFace? name = (Layer.swapFaceChars? name.toList).map String.ofList := rfl
  unfold layerParts seenLayer
  split
  · rename_i rest shape
    cases flip : stance.flip <;>
      simp [fill, Fragment.fill, cooked, swap, shape, Layer.swapFaceChars?, fits.flip, flip,
        Script.lineFeeds_cons]
  · rename_i rest shape
    cases flip : stance.flip <;>
      simp [fill, Fragment.fill, cooked, swap, shape, Layer.swapFaceChars?, fits.flip, flip,
        Script.lineFeeds_cons]
  · rename_i notFront notBack
    have faceless : Layer.swapFaceChars? name.toList = none := by
      unfold Layer.swapFaceChars?
      split
      · exact absurd ‹_› (notFront _)
      · exact absurd ‹_› (notBack _)
      · rfl
    cases flip : stance.flip <;> simp [fill, Fragment.fill, cooked, swap, faceless]

theorem fill_layerEntry {filling : Filling} (fits : stance.Fits [] filling) (text : String) :
    fill filling (layerEntry (unquote text)) =
      ' ' :: (placedEntry stance.flip (.atom text)).chars := by
  have name := fill_layerParts fits (unquote text)
  rw [fill] at name
  simp [fill, layerEntry, Fragment.fill, name, placedEntry, Item.chars, quotedChars, Item.atom?]

theorem fill_layerEntries {filling : Filling} (fits : stance.Fits [] filling)
    (names : List String) :
    fill filling (names.flatMap fun text => layerEntry (unquote text)) =
      Item.charsAll (names.map fun text => placedEntry stance.flip (.atom text)) := by
  induction names with
  | nil => rfl
  | cons name rest ih =>
    rw [List.flatMap_cons, fill_append, fill_layerEntry fits, ih]
    rfl

theorem fills_layers : Fills stance (compose .layers "layers" (items.map (partOf "layers")))
    (placedNode stance .layers "layers" items).chars := by
  refine .of_ok fun fragments ok => ?_
  obtain ⟨names, rfl⟩ := writeLayers_eq_ok ok
  have entries := Fills.fragments fun filling (fits : stance.Fits [] filling) =>
    fill_layerEntries fits names
  have shape : compose .layers "layers" ((names.map .atom).map (partOf "layers")) = _ :=
    writeLayers_names "layers" names
  rw [shape]
  exact (Fills.append (.append (.punct "(layers") entries) (.punct ")")).of_eq (by
    simp [placedNode, placedItems, Rewriting.items_eq_map, Item.chars, cooked_eq_self,
      Function.comp_def])

theorem takeDelta_items {x y : String} {delta : Option String} {flags : List String}
    (placement : IsPlacement x y delta flags) :
    takeDelta ((placed stance).items kind ((delta.toList ++ flags).map .atom)) =
      (delta, (placed stance).items kind (flags.map .atom)) := by
  cases delta with
  | none =>
    cases flags with
    | nil => rfl
    | cons flag rest => simp [Rewriting.items, Rewriting.item, takeDelta, placement.flags flag rfl]
  | some text => simp [Rewriting.items, takeDelta, placement.delta text rfl]

theorem fill_placement {filling : Filling} (fits : stance.Fits [] filling) {x y : String}
    {delta : Option String} {flags : List String} (placement : IsPlacement x y delta flags) :
    fill filling [.punct "(at ", atCoordinate x, .punct " ", .source y, .punct " ",
        .rotation delta] =
      "(at".toList ++ Item.charsAll [placedAtX stance.flip x, .atom y,
        numberItem (turnedBy stance.rotation delta)] := by
  have angle : (Fragment.angle delta).eval Template.doubles stance.rotation =
      turnedBy stance.rotation delta := by cases delta <;> rfl
  have shownX : Fragment.fill filling (atCoordinate x) = (placedAtX stance.flip x).chars := by
    unfold atCoordinate placedAtX
    split
    · simp [Fragment.fill, Item.chars, lineFeeds_number placement.x]
    · simp [Fragment.fill, Item.chars, placedX, numberItem, fits.flip]
  rw [fill, List.flatMap_cons, List.flatMap_cons, shownX]
  simp [Fragment.fill, fits.rotation, angle, lineFeeds_number placement.y, Item.chars,
    Item.charsAll, numberItem]

theorem fills_at : Fills stance (compose .at "at" (items.map (partOf "at")))
    (placedNode stance .at "at" items).chars := by
  refine .of_ok fun fragments ok => ?_
  obtain ⟨x, y, delta, flags, rfl, placement⟩ := writeAt_eq_ok ok
  have atoms : AllFill stance "at" (flags.map .atom) := by
    intro item member _
    obtain ⟨text, inFlags, rfl⟩ := List.mem_map.mp member
    exact .source text
  -- Flags are atoms, so none of them is left out.
  have sameFlags : kept "at" ((placed stance).items "at" (flags.map .atom)) =
      results ((placed stance).items "at" (flags.map .atom)) := by
    rw [kept, List.filter_eq_self.mpr]
    intro piece member
    rw [Rewriting.items_eq_map, List.map_map] at member
    obtain ⟨text, -, rfl⟩ := List.mem_map.mp member
    rfl
  have numbers := Fills.fragments fun filling (fits : stance.Fits [] filling) =>
    fill_placement fits placement
  have shape : compose .at "at" ((placementItems x y delta flags).map (partOf "at")) = _ :=
    writeAt_placement placement
  have node : placedNode stance .at "at" (placementItems x y delta flags) =
      .node (cooked "at") (placedAtX stance.flip x :: .atom y ::
        numberItem (turnedBy stance.rotation delta) ::
          results ((placed stance).items "at" (flags.map .atom))) := by
    rw [placedNode, placementItems, Rewriting.items, Rewriting.items, placedItems,
      takeDelta_items placement]
  rw [shape, node]
  exact (Fills.append (.append numbers (.placedAll atoms)) (.punct ")")).of_eq (by
    simp [sameFlags, Item.chars, Item.charsAll, cooked_eq_self])

theorem fills_effects (all : AllFill stance "effects" items) :
    Fills stance (compose .effects "effects" (items.map (partOf "effects")))
      (placedNode stance .effects "effects" items).chars := by
  have justify : ((placed stance).items "effects" items).any (isJustify ·.source) =
      (items.map (partOf "effects")).any (Part.isKind "justify") :=
    ((placed stance).any_source ..).trans (any_isKind_justify ..).symm
  have start := Fills.append (.punct "(effects") (.placedAll all)
  simp only [compose, writeEffects, placedNode, placedItems, justify]
  split
  · exact (Fills.append (.append start (.fragments fun _ _ => rfl)) (.punct ")")).of_eq (by
      simp [Item.chars, cooked_eq_self])
  · have added : Fills stance
        (.fragments [.punct " ", .punct "(justify", .mirrorFlag false, .punct ")"])
        (Item.charsAll [.node "justify" (mirrorWords stance.flip)]) := by
      refine .fragments fun filling fits => ?_
      cases flip : stance.flip <;>
        simp [fill, Fragment.fill, Fragment.mirrorText, fits.flip, flip, mirrorWords, Item.chars,
          Item.charsAll]
    exact (Fills.append (.append start added) (.punct ")")).of_eq (by
      simp [Item.chars, cooked_eq_self, Item.charsAll_append])

theorem fills_justify (all : AllFill stance "justify" items) :
    Fills stance (compose .justify "justify" (items.map (partOf "justify")))
      (placedNode stance .justify "justify" items).chars := by
  have rest : AllFill stance "justify" (items.filter (!isMirrorWord ·)) :=
    fun item member => all item (List.mem_filter.mp member).1
  have words := (placed stance).filter_source "justify" items (!isMirrorWord ·)
  have mirrored := (placed stance).any_source "justify" items isMirrorWord
  have flag : Fills stance (.fragments [.mirrorFlag (items.any isMirrorWord), .punct ")"])
      (Item.charsAll (mirrorWords (items.any isMirrorWord != stance.flip)) ++ [')']) := by
    refine .fragments fun filling fits => ?_
    cases shown : items.any isMirrorWord != stance.flip <;>
      simp [fill, Fragment.fill, Fragment.mirrorText, fits.flip, shown, mirrorWords, Item.chars,
        Item.charsAll]
  rw [compose, writeJustify_parts]
  exact (Fills.append (.append (.punct "(justify") (.placedAll rest)) flag).of_eq (by
    simp [placedNode, placedItems, words, mirrored, Item.chars, cooked_eq_self, Item.charsAll_append])

/-- These rules write a name of their own in place of the kind. -/
def NamedBy (kind : String) (rule : Rule) : Prop :=
  rule ∈ [.pad, .layer, .layers, .at, .effects, .justify] → kind = rule.name

theorem namedBy_select (parent : Option String) : NamedBy kind (Rule.select parent kind) := by
  unfold Rule.select
  repeat' refine iteInduction (motive := NamedBy kind) (fun found => ?_) (fun _ => ?_)
  all_goals first | exact fun _ => beq_iff_eq.mp found | exact fun own => absurd own (by decide)

theorem fills_compose (all : AllFill stance kind items) {parent : Option String} {rule : Rule}
    (selected : Rule.select parent kind = rule) (written : rule.disposition ≠ .skip) :
    Fills stance (compose rule kind (items.map (partOf kind)))
      (placedNode stance rule kind items).chars := by
  have own : NamedBy kind rule := selected ▸ namedBy_select parent
  cases rule with
  | pad => obtain rfl := own (by decide); exact fills_pad all
  | xy => exact fills_xy
  | layer => obtain rfl := own (by decide); exact fills_layer all
  | layers => obtain rfl := own (by decide); exact fills_layers
  | modelOffset => exact fills_generic all
  | «at» => obtain rfl := own (by decide); exact fills_at
  | effects => obtain rfl := own (by decide); exact fills_effects all
  | justify => obtain rfl := own (by decide); exact fills_justify all
  | padNet => exact absurd rfl written
  | skip => exact absurd rfl written
  | property => exact fills_generic all
  | fallback => exact fills_generic all

end Rules

mutual
theorem fills_item (stance : Stance) (parent : Option String) (item : Item)
    (written : isLeftOut parent item = false) :
    Fills stance (writeItem parent item) ((placed stance).item parent item).chars := by
  cases item with
  | atom text => exact .source text
  | node kind items =>
    rw [writeItem_node]
    exact fills_compose (fills_items stance kind items) rfl (by simpa [isLeftOut] using written)

theorem fills_items (stance : Stance) (kind : String) (items : List Item) :
    AllFill stance kind items := by
  cases items with
  | nil => exact fun _ member => nomatch member
  | cons item rest =>
    exact List.forall_mem_cons.mpr
      ⟨fills_item stance (some kind) item, fills_items stance kind rest⟩
end

end FootprintTemplate.Writer
