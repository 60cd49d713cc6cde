import FootprintTemplate.Proofs.Preview.Resting
import FootprintTemplate.Proofs.Preview.Simulated

/-! Modules of rendered texts. A footprint in its own place is rendered as a text that is read,
converted and rendered as itself. -/
namespace FootprintTemplate.Preview

open Number (Double)
open Script (isOneLine)
open Sexpr (Node maxDepth)
open Writer (Draft IsSteady Rule Stance Visit WritesScript padsOfAll)

section Modules

variable {footprint : Node}

theorem gathers_scripts (root : String) :
    Gathers root fun _ statements children =>
      (∀ child ∈ children, WritesScript (some root) child.item) →
        statements.all Statement.isScript = true where
  nil _ := rfl
  append start rest scripts := by
    obtain ⟨first, others⟩ := List.forall_mem_append.mp scripts
    rw [List.all_append, start first, rest others]
    rfl
  child {child statement} ok scripts := by
    obtain ⟨fragments, written, script⟩ := scripts child List.mem_cons_self
    by_cases skip : (Rule.select (some root) child.kind).disposition = .skip
    · rw [draftStatement_skip skip] at ok
      cases ok
      rfl
    · rw [draftStatement_write skip] at ok
      obtain ⟨own, okOwn, rfl⟩ := Draft.bind_pure_eq_ok.mp ok
      cases Except.ok.inj (written.symm.trans okOwn)
      simp [Statement.isScript, script]

theorem draftBody_writes (writes : ∀ child ∈ writtenChildren footprint,
    WritesScript (some footprint.kind) child.item) :
    ∃ layer sections, (draftBody footprint).outcome = .ok (layer, sections) := by
  have sound : (draftBody footprint).failure? = none := by
    rw [failure?_draftBody, visited, findSome?_flatMap]
    refine List.findSome?_eq_none_iff.mpr fun child member => ?_
    obtain ⟨fragments, written, -⟩ := writes child member
    have stops := Writer.stops_item (some footprint.kind) child.item
    rw [Writer.Stops, Draft.failure?, written] at stops
    exact stops.symm
  rw [Draft.failure?] at sound
  split at sound
  · cases sound
  · rename_i body ok
    exact ⟨body.1, body.2, ok⟩

end Modules

section Own

variable {config : Config} {footprint : Node} {conversion : Conversion} {loaded : Loaded}
  {x y : Double} {sign : Bool}

/-- A place on the side of the footprint, not turned, with the nets of its module. -/
def ownPlacement (x y : Double) (sign : Bool) (side : Side) : Placement where
  x := x
  y := y
  r := .zero sign
  side := side.letter

/-- The side of a source, and the text that it renders as in its own place, once it is loaded in this
way. -/
def renderOwn (loads : Conversion → List (String × String) → Except PreviewError Loaded)
    (config : Config) (x y : Double) (sign : Bool) (source : String) :
    Option (Side × String) := do
  let conversion ← (convertText config source).toOption
  let loaded ← (loads conversion []).toOption
  let text ← (render loaded (ownPlacement x y sign conversion.written.side)).toOption
  return (conversion.written.side, text)

theorem toOption_eq_some {ε α : Type} {result : Except ε α} {value : α} :
    result.toOption = some value ↔ result = .ok value := by
  cases result <;> simp [Except.toOption]

variable {loads : Conversion → List (String × String) → Except PreviewError Loaded}

theorem renderOwn_eq_some {source out : String} {side : Side} :
    renderOwn loads config x y sign source = some (side, out) ↔
      ∃ conversion loaded, convertText config source = .ok conversion ∧
        conversion.written.side = side ∧ loads conversion [] = .ok loaded ∧
        render loaded (ownPlacement x y sign side) = .ok out := by
  simp only [renderOwn, Option.bind_eq_bind, Option.bind_eq_some_iff, toOption_eq_some,
    Option.pure_def, Option.some.injEq, Prod.mk.injEq]
  constructor
  · rintro ⟨conversion, converted, loaded, loads, _, renders, rfl, rfl⟩
    exact ⟨conversion, loaded, converted, rfl, loads, renders⟩
  · rintro ⟨conversion, loaded, converted, rfl, loads, renders⟩
    exact ⟨conversion, converted, loaded, loads, _, renders, rfl, rfl⟩

/-- What a footprint has to be for the text it renders as to render as it stands. -/
structure IsRepeatable (config : Config) (footprint : Node) : Prop where
  /-- A net or a justification can be added at the deepest level. -/
  shallow : footprint.depth < maxDepth
  noReturn : ∀ word ∈ footprint.item.words, '\r' ∉ word.toList
  /-- The namer asks for no pads that are not shown. -/
  flat : ∀ child ∈ footprint.nodes, child.kind = "property" → padsOfAll child.kind child.items = []
  steady : ∀ visit ∈ visited footprint, IsSteady visit.rule visit.node.items
  /-- The headings are comments. -/
  oneLine : ∀ drawing ∈ footprint.nodes, GroupKind.of? drawing.kind = some .drawings →
    isOneLine (drawingLayer drawing).toList = true
  nets : ∀ net ∈ (namerOf config footprint).paramNames,
    net ∉ reservedNames ∧ net.toList.getLast? ≠ some '\\'

theorem IsRepeatable.isCalm (repeatable : IsRepeatable config footprint)
    (readable : footprint.Readable) (converted : convert config footprint = .ok conversion) :
    IsCalm footprint := by
  obtain ⟨-, layer, sections, ok, -⟩ := convert_eq_ok.mp converted
  have sound : (visited footprint).findSome? Visit.misshapen? = none := by
    rw [← failure?_draftBody, Draft.failure?, ok]
  refine ⟨fun word member => ⟨?_, readable.words word member, repeatable.noReturn word member⟩,
    fun visit member => ⟨List.findSome?_eq_none_iff.mp sound visit member,
      repeatable.steady visit member⟩⟩
  exact readable.lexemes word (Sexpr.Item.mem_flatten_of_mem_words _ member)

/-- In its own place a footprint is upright, with the names of its module for nets. -/
theorem isUpright_ownPlacement
    (onlyNets : ∀ net param, (net, param) ∈ loaded.params → param.kind = .net →
      net ∈ loaded.conversion.written.nets)
    (bare : ∀ net param, (net, param) ∈ loaded.params → param.kind = .net → param.default = none)
    (names : ∀ net ∈ loaded.conversion.written.nets, net.toList.getLast? ≠ some '\\') :
    (stanceOf loaded (ownPlacement x y sign loaded.conversion.written.side)).IsUpright where
  flip := bne_self_eq_false _
  rotation := ⟨sign, rfl⟩
  net pad := by
    change (((boardNets [] [] loaded.params).lookup
      (loaded.conversion.namer.netOf pad)).getD ⟨0, ""⟩).name.toList.getLast? ≠ some '\\'
    cases found : (boardNets [] [] loaded.params).lookup (loaded.conversion.namer.netOf pad) with
    | none => exact nofun
    | some net =>
      obtain ⟨before, after, split, -⟩ := List.lookup_eq_some_iff.mp found
      have member : (loaded.conversion.namer.netOf pad, net) ∈ boardNets [] [] loaded.params := by
        rw [split]
        simp
      obtain ⟨same, param, declared, isNet⟩ := name_of_mem_boardNets bare member
      rw [Option.getD_some, same]
      exact names _ (onlyNets _ param declared isNet)

theorem isEnclosed_convert
    (oneLine : ∀ drawing ∈ footprint.nodes, GroupKind.of? drawing.kind = some .drawings →
      isOneLine (drawingLayer drawing).toList = true)
    (converted : convert config footprint = .ok conversion) :
    conversion.written.isEnclosed = true := by
  obtain ⟨-, layer, sections, ok, rfl⟩ := convert_eq_ok.mp converted
  obtain ⟨-, okSections⟩ := draftBody_eq_ok.mp ok
  exact isEnclosed_of_isOneLine ((isOneLine_labels okSections).mpr oneLine)

/-- A placed footprint is converted as its source is, but for what it no longer holds. -/
theorem IsCalm.convert_placedFootprint {stance : Stance} {placement : Placement}
    (calm : IsCalm footprint) (upright : stance.IsUpright)
    (flat : ∀ child ∈ footprint.nodes, child.kind = "property" →
      padsOfAll child.kind child.items = [])
    (converted : convert config footprint = .ok conversion)
    (script : conversion.written.isScript = true) :
    ∃ again, convert config (placedFootprint stance placement footprint) = .ok again ∧
      again.written.side = conversion.written.side ∧
      again.written.nets = conversion.written.nets ∧ again.namer = conversion.namer ∧
      declaredParams again.written [] = declaredParams conversion.written [] ∧
      again.written.isScript = true := by
  obtain ⟨root, layer, sections, ok, shape⟩ := convert_eq_ok.mp converted
  have writes : ∀ child ∈ writtenChildren (placedFootprint stance placement footprint),
      WritesScript (some footprint.kind) child.item := by
    intro child member
    rw [calm.writtenChildren_placedFootprint upright] at member
    exact (calm.atRest upright child member).writes
      (isLeftOut_of_isShown (calm.isShown_shownChildren child member))
  obtain ⟨layerAgain, sectionsAgain, okAgain⟩ := draftBody_writes writes
  have pads : (draftBody (placedFootprint stance placement footprint)).pads =
      (draftBody footprint).pads := by
    rw [((gathers_asks _).draftBody okAgain).1, ((gathers_asks _).draftBody ok).1]
    exact calm.connectedPads_placedFootprint upright flat
  have namer : namerOf config (placedFootprint stance placement footprint) =
      namerOf config footprint := by
    rw [namerOf, pads, namerOf]
  have statements := (gathers_scripts _).draftBody okAgain writes
  subst shape
  refine ⟨_, convert_eq_ok.mpr ⟨root, layerAgain, sectionsAgain, okAgain, rfl⟩,
    calm.sideOf_placedFootprint upright, congrArg NetNamer.paramNames namer, namer, ?_, ?_⟩
  · rw [declaredParams, calm.sideOf_placedFootprint upright, namer]
    rfl
  · simp only [Module.isScript, Bool.and_eq_true, calm.header_placedFootprint] at script ⊢
    exact ⟨script.1, statements⟩

/-- The text of a placed footprint is read, since no string in it is left open. -/
theorem IsCalm.read_placedChars {stance : Stance} {placement : Placement} (calm : IsCalm footprint)
    (upright : stance.IsUpright) (readable : footprint.Readable)
    (shallow : footprint.depth < maxDepth) :
    Sexpr.parse (String.ofList (placedChars stance placement footprint)) =
      .ok (placedFootprint stance placement footprint) := by
  have closed : IsClosed (placedFootprint stance placement footprint) := fun word member =>
    Sexpr.isUnclosed_lexeme (calm.isLexed_placedFootprint upright word member)
  exact (parse_placedChars (isSpelt_of_readable readable) closed).mpr
    (Nat.le_trans depth_placedFootprint shallow)

theorem stanceOf_congr {again : Conversion} (side : again.written.side = conversion.written.side)
    (namer : again.namer = conversion.namer) (params : List (String × Param))
    (placement : Placement) :
    stanceOf { conversion := again, params } placement =
      stanceOf { conversion, params } placement := by
  have nets : padNet { conversion := again, params } placement =
      padNet { conversion, params } placement := by
    funext pad
    rw [padNet, padNet, namer]
  rw [stanceOf, stanceOf, nets, side]

theorem known_ownPlacement (side : Side) :
    (ownPlacement x y sign side).side = "F" ∨ (ownPlacement x y sign side).side = "B" := by
  cases side
  · exact .inl rfl
  · exact .inr rfl

/-- A script renders in its own place what its module is filled to there. -/
theorem renderOwn_script {source out : String} {side : Side}
    (converted : convertText config source = .ok conversion)
    (enclosed : conversion.written.isEnclosed = true) (short : IsShort conversion [])
    (rendered : renderOwn load config x y sign source = some (side, out)) :
    renderOwn loadScript config x y sign source = some (side, out) := by
  obtain ⟨_, loaded, again, side, loads, renders⟩ := renderOwn_eq_some.mp rendered
  cases Except.ok.inj (converted.symm.trans again)
  obtain ⟨_, -, written⟩ := convertText_eq_ok.mp converted
  obtain ⟨running, starts, runs⟩ := exists_running written enclosed short loads
  exact renderOwn_eq_some.mpr ⟨conversion, running, converted, side, starts, runs.render renders⟩

/-- In its own place a footprint renders as a text that renders as itself there, on the same side. The
scripts of both, unless they are too long, render as the same text. -/
theorem renderOwn_again {source out : String} {side : Side}
    (read : Sexpr.parse source = .ok footprint) (repeatable : IsRepeatable config footprint)
    (rendered : renderOwn load config x y sign source = some (side, out)) :
    renderOwn load config x y sign out = some (side, out) ∧
      ∀ text ∈ [source, out],
        (∀ conversion, convertText config text = .ok conversion → IsShort conversion []) →
          renderOwn loadScript config x y sign text = some (side, out) := by
  obtain ⟨conversion, loaded, text, rfl, loads, renders⟩ := renderOwn_eq_some.mp rendered
  obtain ⟨_, read', converted⟩ := convertText_eq_ok.mp text
  cases Except.ok.inj (read.symm.trans read')
  have readable := Sexpr.readable_of_parse read
  have calm := repeatable.isCalm readable converted
  have enclosed := isEnclosed_convert repeatable.oneLine converted
  obtain ⟨script, params, reads, rfl⟩ := (load_eq_ok_iff enclosed).mp loads
  obtain ⟨areParams, bare⟩ := areParams_of_readParams reads
  have nets : ∀ net ∈ conversion.written.nets,
      net ∉ reservedNames ∧ net.toList.getLast? ≠ some '\\' := by
    obtain ⟨-, layer, sections, -, rfl⟩ := convert_eq_ok.mp converted
    exact repeatable.nets
  have known := @known_ownPlacement x y sign conversion.written.side
  have upright := @isUpright_ownPlacement { conversion, params } x y sign areParams.onlyNets bare
    fun net declared => (nets net declared).2
  -- The text that is rendered is read as the placed footprint, and that is converted as its source.
  have filled : render { conversion, params } (ownPlacement x y sign conversion.written.side) = _ :=
    fillIn_eq converted areParams (fun net declared => (nets net declared).1) known
  cases Except.ok.inj (filled.symm.trans renders)
  obtain ⟨again, convertedAgain, side, netsAgain, namer, declared, scriptAgain⟩ :=
    @IsCalm.convert_placedFootprint _ _ _ _ (ownPlacement x y sign conversion.written.side)
      calm upright repeatable.flat converted script
  have readsAgain : readParams (.record (declaredParams again.written [])) = .ok params := by
    rw [declared, reads]
  have enclosedAgain := isEnclosed_convert (calm.forall_drawing_placedFootprint upright
    (fun layer => isOneLine layer.toList = true) repeatable.oneLine) convertedAgain
  have filledAgain : render { conversion := again, params }
      (ownPlacement x y sign conversion.written.side) = _ :=
    fillIn_eq convertedAgain (areParams_of_readParams readsAgain).1
      (fun net declared => (nets net (netsAgain ▸ declared)).1) known
  rw [stanceOf_congr side namer, calm.placedChars_placedFootprint upright] at filledAgain
  have textAgain := convertText_eq_ok.mpr
    ⟨_, calm.read_placedChars upright readable repeatable.shallow, convertedAgain⟩
  have renderedAgain : renderOwn load config x y sign _ = some (conversion.written.side, _) :=
    renderOwn_eq_some.mpr ⟨again, { conversion := again, params }, textAgain, side,
      (load_eq_ok_iff enclosedAgain).mpr ⟨scriptAgain, params, readsAgain, rfl⟩, filledAgain⟩
  refine ⟨renderedAgain, ?_⟩
  simp only [List.mem_cons, List.not_mem_nil, or_false, forall_eq_or_imp, forall_eq]
  exact ⟨fun short => renderOwn_script text enclosed (short _ text) rendered,
    fun short => renderOwn_script textAgain enclosedAgain (short _ textAgain) renderedAgain⟩

theorem isRepeatable_tab : IsRepeatable {} tabFootprint where
  shallow := by decide
  noReturn := by decide
  flat := by decide
  steady := by decide
  oneLine := by decide
  nets := by
    rw [paramNames_tab]
    decide

/-- The text of the tab in its own place: a name is quoted, and a rotation, a net and a
justification are added. -/
def tabText : String :=
  "(footprint R\n(at 0 0 0)\n(effects (justify))\n(pad \"tab\" (at 1 2 0) (net 1 \"tab\"))\n)"

theorem renderOwn_again_tab :
    renderOwn load {} (.zero false) (.zero false) false "(footprint R (pad tab (at 1 2)) (effects))" =
        some (.front, tabText) ∧
      renderOwn load {} (.zero false) (.zero false) false tabText = some (.front, tabText) ∧
      renderOwn loadScript {} (.zero false) (.zero false) false
        "(footprint R (pad tab (at 1 2)) (effects))" = some (.front, tabText) := by
  have rendered : renderOwn load {} (.zero false) (.zero false) false
      "(footprint R (pad tab (at 1 2)) (effects))" = some (.front, tabText) :=
    renderOwn_eq_some.mpr ⟨_, _, convert_tab, rfl, load_tab, rfl⟩
  obtain ⟨again, scripts⟩ := renderOwn_again parse_tab isRepeatable_tab rendered
  refine ⟨rendered, again, scripts _ List.mem_cons_self fun conversion converted => ?_⟩
  cases Except.ok.inj (convert_tab.symm.trans converted)
  exact isShort_tab

end Own

end FootprintTemplate.Preview
