import FootprintTemplate.Proofs.Writer.Resting

/-! Nodes that placing settles, rule by rule. What is written of a tree is at rest once it is placed.
-/
namespace FootprintTemplate.Writer

open Number (Reprints)
open Sexpr (Item unquote quoted)
open Template (Fragment)

section Rules

variable {stance : Stance} {rule : Rule} {kind : String} {items : List Item}

@[simp]
theorem isScript_punct (text : String) : (Fragment.punct text).isScript = true := rfl

@[simp]
theorem isScript_source (text : String) : (Fragment.source text).isScript = true := rfl

theorem isScript_layerEntries (names : List String) :
    (names.flatMap fun text => layerEntry (unquote text)).all Fragment.isScript = true := by
  have parts (name : String) : (layerParts name).all Fragment.isScript = true := by
    unfold layerParts
    split <;> rfl
  rw [List.all_flatMap, List.all_eq_true]
  intro name _
  rw [layerEntry, List.all_cons, List.all_append, parts]
  rfl

theorem Lays.isScript {layout : Layout} (lays : Lays kind rule items layout)
    (other : rule ≠ .xy ∧ rule ≠ .at) :
    (layout.head ++ layout.tail).all Fragment.isScript = true := by
  cases lays with
  | xy => exact absurd rfl other.1
  | «at» => exact absurd rfl other.2
  | layer =>
    unfold layerName
    split <;> rfl
  | layers =>
    rw [List.all_append, List.all_cons, isScript_layerEntries]
    rfl
  | effects => split <;> rfl
  | generic | unconnected | pad | justify | dropped => rfl

theorem exists_script_layout (met : ∀ expectation ∈ rule.expected?, expectation.Met items)
    (other : rule ≠ .xy ∧ rule ≠ .at) :
    ∃ layout, Lays kind rule items layout ∧
      (layout.head ++ layout.tail).all Fragment.isScript = true := by
  obtain ⟨layout, lays⟩ := @lays_of_met kind items rule met
  exact ⟨layout, lays, lays.isScript other⟩

variable (plain : ∀ item ∈ items, IsPlain item)
  (rests : ∀ item ∈ items, isLeftOut (some kind) item = false → Rests stance (some kind) item)

section

include plain rests

theorem settles_generic (generic : rule ∈ [.modelOffset, .property, .fallback])
    (other : kind ≠ "pad") :
    Settles stance rule kind items
      (placedItems stance rule kind ((placed stance).items kind items)) := by
  rw [placedItems_generic generic]
  refine ⟨?_, ⟨_, .generic generic, rfl⟩, atRest_keptItems rests, ?_, padsOfAll_keptItems rests⟩
  · rw [placedItems_generic generic, keptItems_again plain rests]
  · rw [ownPad?_eq_none other, ownPad?_eq_none other]

theorem keptItems_leftOut {extra : List Item}
    (leftOut : ∀ item ∈ extra, isLeftOut (some kind) item = true) :
    keptItems stance kind (keptItems stance kind items ++ extra) = keptItems stance kind items := by
  have none : extra.filter (!isLeftOut (some kind) ·) = [] :=
    List.filter_eq_nil_iff.mpr fun item member => by simp [leftOut item member]
  rw [keptItems_append, keptItems_again plain rests, keptItems_eq stance kind extra, none]
  exact List.append_nil _

end

theorem settles_pad (upright : stance.IsUpright) {text : String}
    (isName : IsName (unquote text)) (plain : ∀ item ∈ items, IsPlain item)
    (rests : ∀ item ∈ items, isLeftOut (some "pad") item = false →
      Rests stance (some "pad") item) :
    Settles stance .pad "pad" (.atom text :: items)
      (placedItems stance .pad "pad" ((placed stance).items "pad" (.atom text :: items))) := by
  rw [placedItems_pad, isName.cooked]
  have nets : ∀ item ∈ (if unquote text == "" then [] else [netItem (stance.net (unquote text))]),
      item = netItem (stance.net (unquote text)) := by
    split <;> simp
  generalize added : (if unquote text == "" then [] else [netItem (stance.net (unquote text))]) =
    extra at nets
  -- The net is left out when the pad is placed again, and is added as before.
  have leftOut : ∀ item ∈ extra, isLeftOut (some "pad") item = true :=
    fun item member => nets item member ▸ rfl
  refine ⟨?_, exists_script_layout ?_ (by decide), ?_, ?_, ?_⟩
  · rw [placedItems_pad, Sexpr.unquote_quoted, isName.cooked, keptItems_leftOut plain rests leftOut,
      added]
  · rintro _ ⟨⟩
    exact ⟨_, _, rfl⟩
  · refine List.forall_mem_cons.mpr ⟨.atom isName.isPlainWord, List.forall_mem_append.mpr
      ⟨atRest_keptItems rests, fun item member => ?_⟩⟩
    rw [nets item member]
    exact ⟨isLexed_netItem (upright.net _), nofun, nofun⟩
  · simp [ownPad?, Sexpr.unquote_quoted]
  · rw [padsOfAll, padsOfAll_append, padsOfAll_keptItems rests, padsOfAll_leftOut leftOut,
      List.append_nil]
    rfl

theorem settles_xy (upright : stance.IsUpright) {x y : String} (reprints : Reprints x)
    (numberY : Number.isNumber y = true) (wordY : IsPlainWord y) (other : kind ≠ "pad") :
    Settles stance .xy kind [.atom x, .atom y]
      (placedItems stance .xy kind ((placed stance).items kind [.atom x, .atom y])) := by
  obtain ⟨shown, placed, printed⟩ := placedX_printed reprints
  rw [placedItems_xy, upright.flip, placed]
  refine ⟨?_, ⟨_, .xy printed.number numberY, ?_⟩, ?_, ?_, rfl⟩
  · rw [placedItems_xy, upright.flip, printed.again]
  · simpa using printed.script
  · have words : ∀ text ∈ [shown, y], IsPlainWord text := by simp [printed.word, wordY]
    exact atRest_atoms words
  · rw [ownPad?_eq_none other, ownPad?_eq_none other]

theorem placedLayer_name {name : String} (isName : IsName name) :
    placedLayer false name = .atom (quoted name) := by
  rw [placedLayer, isName.cooked]
  simp [seenLayer]

theorem settles_layer (upright : stance.IsUpright) {text : String}
    (isName : IsName (unquote text)) (plain : ∀ item ∈ items, IsPlain item)
    (rests : ∀ item ∈ items, isLeftOut (some kind) item = false → Rests stance (some kind) item)
    (other : kind ≠ "pad") :
    Settles stance .layer kind (.atom text :: items)
      (placedItems stance .layer kind ((placed stance).items kind (.atom text :: items))) := by
  rw [placedItems_layer, upright.flip, placedLayer_name isName]
  refine ⟨?_, exists_script_layout ?_ (by decide), ?_, ?_, ?_⟩
  · rw [placedItems_layer, upright.flip, Sexpr.unquote_quoted, placedLayer_name isName,
      keptItems_again plain rests]
  · rintro _ ⟨⟩
    exact ⟨_, _, rfl⟩
  · exact List.forall_mem_cons.mpr ⟨.atom isName.isPlainWord, atRest_keptItems rests⟩
  · rw [ownPad?_eq_none other, ownPad?_eq_none other]
  · exact padsOfAll_keptItems rests

theorem placedEntry_name {text : String} (isName : IsName (unquote text)) :
    placedEntry false (.atom text) = .atom (quoted (unquote text)) :=
  congrArg (fun name => Item.atom (quoted name)) isName.cooked

theorem settles_layers (upright : stance.IsUpright) {names : List String}
    (areNames : ∀ text ∈ names, IsName (unquote text)) (other : kind ≠ "pad") :
    Settles stance .layers kind (names.map .atom)
      (placedItems stance .layers kind ((placed stance).items kind (names.map .atom))) := by
  have entries : (names.map fun name => placedEntry stance.flip (.atom name)) =
      (names.map fun name => quoted (unquote name)).map .atom := by
    rw [upright.flip, List.map_map]
    exact List.map_congr_left fun text member => placedEntry_name (areNames text member)
  rw [placedItems_layers, entries]
  refine ⟨?_, exists_script_layout ?_ (by decide), atRest_atoms ?_, ?_, ?_⟩
  · rw [placedItems_layers, upright.flip, List.map_map, List.map_map]
    refine List.map_congr_left fun text member => ?_
    have isName : IsName (unquote (quoted (unquote text))) := by
      rw [Sexpr.unquote_quoted]
      exact areNames text member
    rw [Function.comp_apply, placedEntry_name isName, Sexpr.unquote_quoted]
    rfl
  · rintro _ ⟨⟩
    exact ⟨_, rfl⟩
  · intro text member
    obtain ⟨name, inside, rfl⟩ := List.mem_map.mp member
    exact (areNames name inside).isPlainWord
  · rw [ownPad?_eq_none other, ownPad?_eq_none other]
  · rw [padsOfAll_atoms, padsOfAll_atoms]

theorem placedAtX_settled {x : String} (number : Number.isNumber x = true) (word : IsPlainWord x)
    (reprints : Number.isPlainZero x = false → Reprints x) :
    ∃ shown, placedAtX false x = .atom shown ∧ IsSettledX shown := by
  cases zero : Number.isPlainZero x with
  | true =>
    have same : placedAtX false x = .atom x := if_pos zero
    refine ⟨x, same, number, same, ?_, word⟩
    rw [atCoordinate, if_pos zero]
    rfl
  | false =>
    obtain ⟨shown, placed, printed⟩ := placedX_printed (reprints zero)
    exact ⟨shown, (if_neg (by simp [zero])).trans placed, printed.settled⟩

theorem settles_at (upright : stance.IsUpright) {x y : String} {delta : Option String}
    {flags : List String} (placement : IsPlacement x y delta flags)
    (plain : ∀ item ∈ placementItems x y delta flags, IsPlain item)
    (steady : IsSteady .at (placementItems x y delta flags)) (other : kind ≠ "pad") :
    Settles stance .at kind (placementItems x y delta flags) (placedItems stance .at kind
      ((placed stance).items kind (placementItems x y delta flags))) := by
  have words : ∀ text ∈ x :: y :: (delta.toList ++ flags), IsPlainWord text :=
    fun text member => isPlain_atom.mp (plain _ (List.mem_map_of_mem member))
  have wordX := words x (by simp)
  have wordY := words y (by simp)
  have flagWords : ∀ flag ∈ flags, IsPlainWord flag :=
    fun flag member => words flag (by simp [member])
  have reprints (nonzero : Number.isPlainZero x = false) : Reprints x :=
    steady.coordinate x (by simp [mirroredX?, placementItems, nonzero])
  obtain ⟨sign, rotation⟩ := upright.rotation
  obtain ⟨shown, placedX, settled⟩ := placedAtX_settled placement.x wordX reprints
  have whole : ∀ text ∈ delta, (Number.valueOf text.toList).isWhole = true :=
    fun text found => steady.rotation text (by rwa [rotation?_placement placement])
  obtain ⟨n, turned, again⟩ := turned_whole sign whole
  have printed : Number.IsPrinted (degreeText n).toList := by
    rw [toList_degreeText]
    exact Number.isPrinted_toDigits n
  have degrees : IsPlainWord (degreeText n) := by
    refine isPlainWord_of_isBare (printed.isBare ?_)
    rw [toList_degreeText]
    exact Nat.toDigits_ne_nil
  have settledPlacement : IsPlacement shown y (some (degreeText n)) flags :=
    ⟨settled.number, placement.y, by rintro _ ⟨⟩; exact isNumber_degreeText n, placement.flags⟩
  have items : placedItems stance .at kind
      ((placed stance).items kind (placementItems x y delta flags)) =
        placementItems shown y (some (degreeText n)) flags := by
    rw [placedItems_at placement flagWords, upright.flip, placedX, rotation, turned]
    rfl
  rw [items]
  refine ⟨?_, ⟨_, .at settledPlacement, ?_⟩, ?_, ?_, ?_⟩
  · rw [placedItems_at settledPlacement flagWords, upright.flip, settled.again, rotation, again]
    rfl
  · have script : (Fragment.rotation (some (degreeText n))).isScript = true := isScript_printed printed
    simp [settled.script, script]
  · have words : ∀ text ∈ shown :: y :: degreeText n :: flags, IsPlainWord text := by
      simpa [settled.word, wordY, degrees] using flagWords
    exact atRest_atoms words
  · rw [ownPad?_eq_none other, ownPad?_eq_none other]
  · exact (padsOfAll_atoms kind (shown :: y :: degreeText n :: flags)).trans
      (padsOfAll_atoms kind (x :: y :: (delta.toList ++ flags))).symm

theorem isJustify_placed {item : Item} (plain : IsPlain item) :
    isJustify ((placed stance).item (some kind) item) = isJustify item := by
  cases item with
  | atom => rfl
  | node inner inside =>
    have word : (placed stance).word inner = inner := (isPlain_node.mp plain).1.cooked
    rw [Rewriting.item, word]
    rfl

theorem any_isJustify_keptItems (plain : ∀ item ∈ items, IsPlain item) :
    (keptItems stance kind items).any isJustify = items.any isJustify := by
  refine Bool.eq_iff_iff.mpr ?_
  simp only [List.any_eq_true, mem_keptItems]
  constructor
  · rintro ⟨_, ⟨source, inside, -, rfl⟩, found⟩
    exact ⟨source, inside, (isJustify_placed (plain source inside)).symm.trans found⟩
  · rintro ⟨source, inside, found⟩
    refine ⟨_, ⟨source, inside, ?_, rfl⟩, (isJustify_placed (plain source inside)).trans found⟩
    cases source with
    | atom => cases found
    | node inner =>
      rw [beq_iff_eq.mp (found : (inner == "justify") = true)]
      rfl

theorem atRest_justify (upright : stance.IsUpright) (parent : Option String) :
    IsAtRest stance parent (.node "justify" []) := by
  have settles : Settles stance .justify "justify" [] [] := by
    refine ⟨?_, exists_script_layout (by simp [Rule.expected?]) (by decide), nofun, rfl, rfl⟩
    have placed : placedItems stance .justify "justify" ((placed stance).items "justify" []) = _ :=
      placedItems_justify []
    rw [upright.flip] at placed
    exact placed
  exact Settles.atRest settles (isPlainWord_of_isBare (by decide))

theorem settles_effects (upright : stance.IsUpright) (plain : ∀ item ∈ items, IsPlain item)
    (rests : ∀ item ∈ items, isLeftOut (some kind) item = false → Rests stance (some kind) item)
    (other : kind ≠ "pad") :
    Settles stance .effects kind items
      (placedItems stance .effects kind ((placed stance).items kind items)) := by
  have found : (keptItems stance kind items ++
      if items.any isJustify then [] else [Item.node "justify" []]).any isJustify = true := by
    rw [List.any_append, any_isJustify_keptItems plain]
    cases items.any isJustify <;> rfl
  have added : ∀ item ∈ (if items.any isJustify then [] else [Item.node "justify" []]),
      item = .node "justify" [] := by
    split <;> simp
  rw [placedItems_effects, upright.flip]
  change Settles _ _ _ _ (_ ++ if items.any isJustify then [] else [Item.node "justify" []])
  generalize (if items.any isJustify then [] else [Item.node "justify" []]) = extra at found added
  have atRest : ∀ item ∈ extra, IsAtRest stance (some kind) item :=
    fun item member => added item member ▸ atRest_justify upright (some kind)
  have fixed : keptItems stance kind extra = extra :=
    keptItems_fixed (fun item member => added item member ▸ rfl)
      fun item member => (atRest item member).again (added item member ▸ rfl)
  have none : padsOfAll kind extra = [] := by
    clear found fixed atRest
    induction extra with
    | nil => rfl
    | cons item rest ih =>
      obtain ⟨rfl, others⟩ := List.forall_mem_cons.mp added
      rw [padsOfAll, ih others]
      rfl
  refine ⟨?_, exists_script_layout (by simp [Rule.expected?]) (by decide),
    List.forall_mem_append.mpr ⟨atRest_keptItems rests, atRest⟩, ?_, ?_⟩
  · rw [placedItems_effects, if_pos found, keptItems_append, keptItems_again plain rests, fixed,
      List.append_nil]
  · rw [ownPad?_eq_none other, ownPad?_eq_none other]
  · rw [padsOfAll_append, padsOfAll_keptItems rests, none, List.append_nil]

theorem isMirrorWord_placed {item : Item} (plain : IsPlain item) :
    isMirrorWord ((placed stance).item (some kind) item) = isMirrorWord item := by
  cases item with
  | atom text => rw [placed_atom _ (isPlain_atom.mp plain)]
  | node => rfl

theorem settles_justify (upright : stance.IsUpright) (plain : ∀ item ∈ items, IsPlain item)
    (rests : ∀ item ∈ items, isLeftOut (some kind) item = false → Rests stance (some kind) item)
    (other : kind ≠ "pad") :
    Settles stance .justify kind items
      (placedItems stance .justify kind ((placed stance).items kind items)) := by
  have noMirror (shown : Bool) : (mirrorWords shown).filter (!isMirrorWord ·) = [] := by
    cases shown <;> rfl
  have anyMirror (shown : Bool) : (mirrorWords shown).any isMirrorWord = shown := by
    cases shown <;> rfl
  have mirrorPads (shown : Bool) : padsOfAll kind (mirrorWords shown) = [] := by
    cases shown <;> rfl
  have words (shown : Bool) : ∀ item ∈ mirrorWords shown, IsAtRest stance (some kind) item := by
    cases shown with
    | false => exact nofun
    | true => exact List.forall_mem_singleton.mpr (.atom (isPlainWord_of_isBare (by decide)))
  have others : ∀ item ∈ items.filter (!isMirrorWord ·), item ∈ items :=
    fun item member => (List.mem_filter.mp member).1
  have plainOthers := fun item member => plain item (others item member)
  have restOthers := fun item member => rests item (others item member)
  have plainWords : ∀ item ∈ keptItems stance kind (items.filter (!isMirrorWord ·)),
      isMirrorWord item = false := by
    intro item member
    obtain ⟨source, inside, -, rfl⟩ := mem_keptItems.mp member
    rw [isMirrorWord_placed (plainOthers source inside)]
    simpa using (List.mem_filter.mp inside).2
  rw [placedItems_justify, upright.flip, Bool.bne_false]
  refine ⟨?_, exists_script_layout (by simp [Rule.expected?]) (by decide),
    List.forall_mem_append.mpr ⟨atRest_keptItems restOthers, words _⟩, ?_, ?_⟩
  · have noneKept : (keptItems stance kind (items.filter (!isMirrorWord ·))).any isMirrorWord =
        false := List.any_eq_false.mpr fun item member => by simp [plainWords item member]
    have allKept : (keptItems stance kind (items.filter (!isMirrorWord ·))).filter
        (!isMirrorWord ·) = keptItems stance kind (items.filter (!isMirrorWord ·)) :=
      List.filter_eq_self.mpr fun item member => by simp [plainWords item member]
    rw [placedItems_justify, List.filter_append, List.any_append, allKept, noneKept, noMirror,
      anyMirror, upright.flip, List.append_nil, keptItems_again plainOthers restOthers,
      Bool.bne_false, Bool.false_or]
  · rw [ownPad?_eq_none other, ownPad?_eq_none other]
  · rw [padsOfAll_append, padsOfAll_keptItems restOthers, mirrorPads, List.append_nil,
      padsOfAll_filter]

end Rules

section Trees

variable {stance : Stance} {parent : Option String} {kind : String} {items : List Item}

/-- Placing a node settles its items, whatever its rule. -/
theorem settles_node {rule : Rule} (upright : stance.IsUpright)
    (selected : Rule.select parent kind = rule) (written : rule.disposition ≠ .skip)
    (plain : ∀ item ∈ items, IsPlain item)
    (met : ∀ expectation ∈ rule.expected?, expectation.Met items) (steady : IsSteady rule items)
    (rests : ∀ item ∈ items, isLeftOut (some kind) item = false → Rests stance (some kind) item) :
    Settles stance rule kind items
      (placedItems stance rule kind ((placed stance).items kind items)) := by
  have isName : ∀ text ∈ nameAtoms rule items, .atom text ∈ items → IsName (unquote text) :=
    fun text named member => (isPlain_atom.mp (plain _ member)).isName (steady.names text named)
  have other (apart : rule ≠ .pad) : kind ≠ "pad" :=
    fun isPad => apart (selected ▸ select_eq_pad.mpr isPad)
  cases rule with
  | pad =>
    obtain rfl := select_eq_pad.mp selected
    obtain ⟨text, rest, rfl⟩ := met _ rfl
    obtain ⟨-, plainRest⟩ := List.forall_mem_cons.mp plain
    obtain ⟨-, others⟩ := List.forall_mem_cons.mp rests
    exact settles_pad upright (isName text (by simp [nameAtoms]) (by simp)) plainRest others
  | layer =>
    obtain ⟨text, rest, rfl⟩ := met _ rfl
    obtain ⟨-, plainRest⟩ := List.forall_mem_cons.mp plain
    obtain ⟨-, others⟩ := List.forall_mem_cons.mp rests
    exact settles_layer upright (isName text (by simp [nameAtoms]) (by simp)) plainRest others
      (other (by decide))
  | layers =>
    obtain ⟨names, rfl⟩ := met _ rfl
    refine settles_layers upright (fun text member => isName text ?_ ?_) (other (by decide))
    · simpa [nameAtoms, Item.atom?] using member
    · exact List.mem_map_of_mem member
  | xy =>
    obtain ⟨x, y, rfl, -, numberY⟩ := met _ rfl
    exact settles_xy upright (steady.coordinate x rfl) numberY
      (isPlain_atom.mp (plain (.atom y) (by simp))) (other (by decide))
  | «at» =>
    obtain ⟨x, y, delta, flags, rfl, placement⟩ := met _ rfl
    exact settles_at upright placement plain steady (other (by decide))
  | effects => exact settles_effects upright plain rests (other (by decide))
  | justify => exact settles_justify upright plain rests (other (by decide))
  | modelOffset | property | fallback =>
    exact settles_generic plain rests (by decide) (other (by decide))
  | padNet | skip => exact absurd rfl written

def Visit.rule (visit : Visit) : Rule :=
  Rule.select visit.parent visit.node.kind

/-- Nothing that is visited is misshapen, and all of it is steady. -/
def AllSteady (visits : List Visit) : Prop :=
  ∀ visit ∈ visits, visit.misshapen? = none ∧ IsSteady visit.rule visit.node.items

theorem rests_node (upright : stance.IsUpright) (plain : IsPlain (.node kind items))
    (steady : AllSteady (visits parent (.node kind items)))
    (shown : isLeftOut parent (.node kind items) = false)
    (rests : AllSteady (visitsAll kind items) →
      ∀ item ∈ items, isLeftOut (some kind) item = false → Rests stance (some kind) item) :
    Rests stance parent (.node kind items) := by
  obtain ⟨word, plainItems⟩ := isPlain_node.mp plain
  have entered : isWithheld parent kind = false := (isWithheld_eq parent kind).trans shown
  have written : (Rule.select parent kind).disposition ≠ .skip := by simpa [isLeftOut] using shown
  rw [visits, if_neg (by simp [entered])] at steady
  obtain ⟨⟨sound, own⟩, inner⟩ := List.forall_mem_cons.mp steady
  have settles := settles_node upright rfl written plainItems (Visit.misshapen?_eq_none.mp sound) own
    (rests inner)
  have node : (placed stance).item parent (.node kind items) = .node kind
      (placedItems stance (Rule.select parent kind) kind ((placed stance).items kind items)) := by
    rw [Rewriting.item]
    exact congrArg (Item.node · _) word.cooked
  refine ⟨?_, ?_⟩
  · rw [node]
    exact settles.atRest word
  · rw [node, padsOf, padsOf, settles.own, settles.pads]

mutual
/-- What is written of a plain and steady tree is at rest once it is placed. -/
theorem rests_item (upright : stance.IsUpright) (parent : Option String) (item : Item)
    (plain : IsPlain item) (steady : AllSteady (visits parent item))
    (shown : isLeftOut parent item = false) : Rests stance parent item := by
  match item with
  | .atom text =>
    have word := isPlain_atom.mp plain
    have same : (placed stance).item parent (.atom text) = .atom text := placed_atom parent word
    refine ⟨?_, ?_⟩
    · rw [same]
      exact .atom word
    · rw [same]
  | .node kind items =>
    exact rests_node upright plain steady shown
      (rests_items upright kind items (isPlain_node.mp plain).2)

theorem rests_items (upright : stance.IsUpright) (kind : String) (items : List Item)
    (plain : ∀ item ∈ items, IsPlain item) (steady : AllSteady (visitsAll kind items)) :
    ∀ item ∈ items, isLeftOut (some kind) item = false → Rests stance (some kind) item := by
  match items with
  | [] => exact nofun
  | item :: rest =>
    obtain ⟨first, others⟩ := List.forall_mem_cons.mp plain
    rw [visitsAll] at steady
    obtain ⟨own, inner⟩ := List.forall_mem_append.mp steady
    exact List.forall_mem_cons.mpr ⟨rests_item upright (some kind) item first own,
      rests_items upright kind rest others inner⟩
end

end Trees

end FootprintTemplate.Writer
