import FootprintTemplate.Proofs.Preview.Remarks

/-! Properties of a footprint. All that is written of them stands in comments, so that a module with
them declares the same nets, holds the same lines and is placed with the same texts. -/
namespace FootprintTemplate

open Preview (Session defaultChars isShown load mem_of_mem_writtenChildren renderAll writtenChildren
  writtenChildren_groups)
open Script (SameLines isOneLine)
open Sexpr (Item Node)
open Writer (padsOf padsOfAll)

section Trees

def isProperty : Item → Bool
  | .atom _ => false
  | .node kind _ => kind == "property"

/-- The footprint without its properties. -/
def bare (footprint : Node) : Node :=
  ⟨footprint.kind, footprint.items.filter (!isProperty ·)⟩

mutual
/-- The item is a pad or holds one. -/
def holdsPad : Item → Bool
  | .atom _ => false
  | .node kind items => kind == "pad" || anyHoldsPad items

def anyHoldsPad : List Item → Bool
  | [] => false
  | item :: rest => holdsPad item || anyHoldsPad rest
end

mutual
theorem padsOf_of_holdsPad (parent : Option String) (item : Item) (none : holdsPad item = false) :
    padsOf parent item = [] := by
  match item with
  | .atom text => rfl
  | .node kind items =>
    rw [holdsPad, Bool.or_eq_false_iff] at none
    have other : kind ≠ "pad" := by simpa using none.1
    rw [padsOf, Writer.ownPad?_eq_none other, padsOfAll_of_holdsPad kind items none.2]
    exact ite_self []

theorem padsOfAll_of_holdsPad (kind : String) (items : List Item)
    (none : anyHoldsPad items = false) : padsOfAll kind items = [] := by
  match items with
  | [] => rfl
  | item :: rest =>
    rw [anyHoldsPad, Bool.or_eq_false_iff] at none
    rw [padsOfAll, padsOf_of_holdsPad (some kind) item none.1,
      padsOfAll_of_holdsPad kind rest none.2]
    rfl
end

variable (footprint : Node)

theorem nodes_bare : (bare footprint).nodes = footprint.nodes.filter (·.kind != "property") :=
  node?_filter (fun _ => rfl) footprint.items

theorem atoms_bare : (bare footprint).atoms = footprint.atoms :=
  atom?_filter (fun _ => rfl) footprint.items

theorem child?_bare {kind : String} (other : kind ≠ "property") :
    (bare footprint).child? kind = footprint.child? kind := by
  rw [Node.child?, nodes_bare, List.find?_filter, Node.child?]
  refine congrArg (List.find? · footprint.nodes) (funext fun child => ?_)
  by_cases own : child.kind = kind <;> simp [own, other]

theorem header_bare : header (bare footprint) = header footprint := by
  rw [header, header, atoms_bare]
  rfl

theorem sideOf_bare : sideOf (bare footprint) = sideOf footprint := by
  rw [sideOf, sideOf, child?_bare footprint (by decide)]

end Trees

section Children

variable {footprint : Node}

theorem kind_of_childrenOf {kind : GroupKind} (other : kind ≠ .properties) {child : Node}
    (member : child ∈ childrenOf kind footprint) : child.kind ≠ "property" := by
  intro property
  obtain ⟨-, own⟩ := List.mem_filter.mp member
  rw [property, beq_iff_eq] at own
  exact other (Option.some.inj own).symm

theorem childrenOf_bare {kind : GroupKind} (other : kind ≠ .properties) :
    childrenOf kind (bare footprint) = childrenOf kind footprint := by
  rw [childrenOf, nodes_bare, List.filter_filter, childrenOf]
  refine List.filter_congr fun child member => ?_
  cases own : GroupKind.of? child.kind == some kind with
  | false => rfl
  | true =>
    have inside : child ∈ childrenOf kind footprint := List.mem_filter.mpr ⟨member, own⟩
    simpa using kind_of_childrenOf other inside

theorem GroupKind.of?_eq_properties {kind : String} :
    of? kind = some .properties ↔ kind = "property" := by
  refine ⟨fun own => Decidable.byContradiction fun other => ?_, fun property => by rw [property]; rfl⟩
  unfold of? at own
  simp [other, ite_eq_iff] at own

theorem kind_of_properties {child : Node} (member : child ∈ childrenOf .properties footprint) :
    child.kind = "property" :=
  GroupKind.of?_eq_properties.mp (beq_iff_eq.mp (List.mem_filter.mp member).2)

theorem properties_bare : childrenOf .properties (bare footprint) = [] := by
  rw [List.eq_nil_iff_forall_not_mem]
  intro child member
  have inside := (List.mem_filter.mp member).1
  rw [nodes_bare, List.mem_filter, kind_of_properties member] at inside
  exact absurd inside.2 (by decide)

/-- The children other than properties are written in the same order without those. -/
theorem writtenChildren_bare :
    writtenChildren (bare footprint) =
      (writtenChildren footprint).filter (·.kind != "property") := by
  have layer : ((footprint.child? "layer").toList).filter (·.kind != "property") =
      (footprint.child? "layer").toList := by
    rw [List.filter_eq_self]
    intro child member
    have kind : child.kind = "layer" := by
      simpa using List.find?_some (Option.mem_toList.mp member)
    rw [kind]
    decide
  have grouped (kind : GroupKind) : (groupsOf kind (bare footprint)).flatMap Group.nodes =
      ((groupsOf kind footprint).flatMap Group.nodes).filter (·.kind != "property") := by
    by_cases properties : kind = .properties
    · rw [properties, groupsOf, properties_bare]
      refine (List.filter_eq_nil_iff.mpr fun child member => ?_).symm
      simp [kind_of_properties (mem_groupOf.mp member)]
    · rw [groupsOf, childrenOf_bare properties]
      refine (List.filter_eq_self.mpr fun child member => ?_).symm
      simpa using kind_of_childrenOf properties (mem_groupOf.mp member)
  rw [writtenChildren_groups, writtenChildren_groups, child?_bare footprint (by decide),
    List.filter_append, layer, List.filter_flatMap]
  exact congrArg (_ ++ GroupKind.all.flatMap ·) (funext grouped)

theorem isShown_property {root : String} {child : Node} (property : child.kind = "property") :
    isShown root child = false := by
  rw [isShown, property]
  rfl

theorem filter_isShown_bare :
    (writtenChildren (bare footprint)).filter (isShown footprint.kind) =
      (writtenChildren footprint).filter (isShown footprint.kind) := by
  rw [writtenChildren_bare, List.filter_filter]
  refine List.filter_congr fun child _ => ?_
  by_cases property : child.kind = "property"
  · rw [isShown_property property, Bool.false_and]
  · simp [property]

theorem connectedPads_bare
    (padFree : ∀ item ∈ footprint.items, isProperty item = true → holdsPad item = false) :
    connectedPads (bare footprint) = connectedPads footprint := by
  rw [connectedPads, writtenChildren_bare]
  refine flatMap_filter (fun _ _ _ => rfl) fun child member property => ?_
  have inside : child.item ∈ footprint.items :=
    Preview.item_mem_items (mem_of_mem_writtenChildren member)
  have isKind : child.kind = "property" := by simpa using property
  exact padsOf_of_holdsPad _ _ (padFree child.item inside (beq_iff_eq.mpr isKind))

/-- The layers that head the drawings are one line each. -/
def HeadsOneLine (footprint : Node) : Prop :=
  ∀ drawing ∈ footprint.nodes, GroupKind.of? drawing.kind = some .drawings →
    isOneLine (drawingLayer drawing).toList = true

theorem headsOneLine_bare (footprint : Node) :
    HeadsOneLine (bare footprint) ↔ HeadsOneLine footprint := by
  have drawings (footprint : Node) : HeadsOneLine footprint ↔
      ∀ drawing ∈ childrenOf .drawings footprint,
        isOneLine (drawingLayer drawing).toList = true := by
    simp only [HeadsOneLine, childrenOf, List.mem_filter, beq_iff_eq, and_imp]
  rw [drawings, drawings, childrenOf_bare (by decide)]

end Children

section Conversion

variable {config : Config} {one other : Node} {first second : Conversion}

/-- Enabled statements are told apart by their fragments. -/
theorem enabled_congr {α : Type} {value : List Template.Fragment → α}
    (injective : Function.Injective value) {statements others : List Statement}
    (same : (statements.filter (!·.disabled)).map (fun statement => value statement.fragments) =
      (others.filter (!·.disabled)).map fun statement => value statement.fragments) :
    statements.filter (!·.disabled) = others.filter (!·.disabled) := by
  have build (statements : List Statement) :
      ((statements.filter (!·.disabled)).map Statement.fragments).map (Statement.mk false) =
        statements.filter (!·.disabled) := by
    rw [List.map_map]
    refine (List.map_congr_left fun statement member => ?_).trans (List.map_id _)
    have enabled : statement.disabled = false := by simpa using (List.mem_filter.mp member).2
    rw [Function.comp_apply, ← enabled]
    rfl
  have fragments : (statements.filter (!·.disabled)).map Statement.fragments =
      (others.filter (!·.disabled)).map Statement.fragments := by
    refine List.map_injective_iff.mpr injective ?_
    rw [List.map_map, List.map_map]
    exact same
  rw [← build statements, fragments, build]

theorem isReadable_convert (converted : convert config one = .ok first)
    (oneLine : HeadsOneLine one) : first.written.IsReadable := by
  obtain ⟨-, layer, sections, ok, rfl⟩ := convert_eq_ok.mp converted
  exact ⟨guarded_header one, (isOneLine_labels (draftBody_eq_ok.mp ok).2).mpr oneLine,
    ((gathers_writes one.kind).draftBody ok).1⟩

/-- The enabled statements are those of the children other than properties. -/
theorem enabled_bare (converted : convert config one = .ok first)
    (convertedToo : convert config other = .ok second) (same : bare one = bare other) :
    first.written.statements.filter (!·.disabled) =
      second.written.statements.filter (!·.disabled) := by
  have kind : one.kind = other.kind :=
    (congrArg Node.kind same : (bare one).kind = (bare other).kind)
  obtain ⟨-, layer, sections, ok, rfl⟩ := convert_eq_ok.mp converted
  obtain ⟨-, layerToo, sectionsToo, okToo, rfl⟩ := convert_eq_ok.mp convertedToo
  obtain ⟨-, written⟩ := (gathers_writes one.kind).draftBody ok
  obtain ⟨-, writtenToo⟩ := (gathers_writes other.kind).draftBody okToo
  rw [← filter_isShown_bare] at written writtenToo
  rw [same, kind, writtenToo] at written
  exact enabled_congr (fun _ _ => Except.ok.inj) written.symm

theorem namerOf_bare (converted : convert config one = .ok first)
    (padFree : ∀ item ∈ one.items, isProperty item = true → holdsPad item = false) :
    namerOf config one = NetNamer.nameAll ⟨config, []⟩ (connectedPads (bare one)) := by
  obtain ⟨-, layer, sections, ok, -⟩ := convert_eq_ok.mp converted
  rw [namerOf, ((gathers_asks one.kind).draftBody ok).1, connectedPads_bare padFree]
  rfl

/-- Properties without pads make no difference to a conversion outside comments. -/
theorem isLike_bare (same : bare one = bare other)
    (padFree : ∀ item ∈ one.items ++ other.items, isProperty item = true → holdsPad item = false)
    (oneLine : HeadsOneLine one) (converted : convert config one = .ok first)
    (convertedToo : convert config other = .ok second) :
    first.namer = second.namer ∧ first.written.IsReadable ∧ second.written.IsReadable ∧
      first.written.IsLike first.namer.netOf second.written := by
  obtain ⟨padFreeOne, padFreeOther⟩ := List.forall_mem_append.mp padFree
  have namer : namerOf config one = namerOf config other := by
    rw [namerOf_bare converted padFreeOne, namerOf_bare convertedToo padFreeOther, same]
  have readable := isReadable_convert converted oneLine
  have readableToo := isReadable_convert convertedToo
    ((headsOneLine_bare other).mp (same ▸ (headsOneLine_bare one).mpr oneLine))
  have side : sideOf one = sideOf other := by rw [← sideOf_bare, same, sideOf_bare]
  have head : header one = header other := by rw [← header_bare, same, header_bare]
  have statements := enabled_bare converted convertedToo same
  obtain ⟨-, layer, sections, -, rfl⟩ := convert_eq_ok.mp converted
  obtain ⟨-, layerToo, sectionsToo, -, rfl⟩ := convert_eq_ok.mp convertedToo
  refine ⟨namer, readable, readableToo, ?_⟩
  exact isLike_of_isReadable _ readable readableToo rfl side
    (congrArg NetNamer.paramNames namer) head statements

theorem sameLines_closing {netOf : String → String} {m n : Module} (like : m.IsLike netOf n)
    (readable : m.IsReadable) (readableToo : n.IsReadable) :
    SameLines (m.closing netOf) (n.closing netOf) := by
  have condensed := condensed_closing netOf readable
  rw [like.closingLines] at condensed
  exact condensed.sameLines (condensed_closing netOf readableToo)

theorem sameLines_code {netOf : String → String} {m n : Module} (like : m.IsLike netOf n)
    (readable : m.IsReadable) (readableToo : n.IsReadable)
    (isLiteral : m.designator.toList.all (fun c => c != '\n' && c != '\r') = true) :
    SameLines (m.code netOf).toList (n.code netOf).toList := by
  have condensed := condensed_code netOf readable isLiteral
  rw [like.frontLines, like.closingLines] at condensed
  exact condensed.sameLines (condensed_code netOf readableToo (like.designator ▸ isLiteral))

/-- Whatever properties a footprint has, if no pad is in them and both conversions succeed, the nets
and the side are the same, the scripts are the same but for comments and blank lines, and so is what
is placed. A designator with a line end is no literal; then the scripts are the same up to the end of
their nets, and but for comments and blank lines after it. -/
theorem convert_properties (same : bare one = bare other)
    (padFree : ∀ item ∈ one.items ++ other.items, isProperty item = true → holdsPad item = false)
    (oneLine : HeadsOneLine one) (converted : convert config one = .ok first)
    (convertedToo : convert config other = .ok second) :
    first.netMap = second.netMap ∧ first.written.side = second.written.side ∧
      (∃ closing closingToo,
        first.code.toList = first.written.opening ++ first.written.netBlock ++ closing ∧
        second.code.toList = first.written.opening ++ first.written.netBlock ++ closingToo ∧
        SameLines closing closingToo) ∧
      (config.designator.toList.all (fun c => c != '\n' && c != '\r') = true →
        SameLines first.code.toList second.code.toList) ∧
      ∀ defaults,
        Session.load (first.written.codeWith first.namer.netOf (defaultChars defaults)) =
          Session.load (second.written.codeWith second.namer.netOf (defaultChars defaults)) ∧
        ∀ placements, (load first defaults).map (renderAll · placements) =
          (load second defaults).map (renderAll · placements) := by
  obtain ⟨namer, readable, readableToo, like⟩ :=
    isLike_bare same padFree oneLine converted convertedToo
  have designator : first.written.designator = config.designator := by
    obtain ⟨-, layer, sections, -, rfl⟩ := convert_eq_ok.mp converted
    rfl
  obtain ⟨written, own⟩ := first
  obtain ⟨writtenToo, others⟩ := second
  cases namer
  refine ⟨rfl, like.side, ⟨_, _, toList_code _ _, ?_,
    sameLines_closing like readable readableToo⟩, fun isLiteral => ?_, fun defaults => ⟨?_, ?_⟩⟩
  · rw [← ended_frontLines, like.frontLines, ended_frontLines]
    exact toList_code _ _
  · exact sameLines_code like readable readableToo (designator ▸ isLiteral)
  · exact like.load own.netOf (isDefault_defaultChars defaults)
  · exact Preview.render_like like defaults

/-- A drawing between these items. -/
def annotatedFootprint (front back : List Item) : Node :=
  ⟨"footprint", front ++ .atom "a" :: .node "fp_line" [.node "layer" [.atom "Cu"]] :: back⟩

/-- A property with line ends of every kind before what closes templates and opens comments. -/
def brokenProperty : Node :=
  ⟨"property", [.atom "\"b\r\n\x60);\u2028$\x7b\u2029//\r\"", .node "at" [.atom "1", .atom "2"]]⟩

theorem convert_properties_brokenProperty :
    ∃ first second, convert {} (annotatedFootprint [brokenProperty.item] []) = .ok first ∧
      convert {} (annotatedFootprint [] [.node "property" []]) = .ok second ∧
      SameLines first.code.toList second.code.toList ∧
      ∀ defaults placements, (load first defaults).map (renderAll · placements) =
        (load second defaults).map (renderAll · placements) := by
  have groups : classify (annotatedFootprint [brokenProperty.item] []) =
      [⟨.drawings, "Drawings on Cu", [⟨"fp_line", [.node "layer" [.atom "Cu"]]⟩]⟩,
        ⟨.properties, "Properties", [brokenProperty]⟩] := by cbv
  have groupsToo : classify (annotatedFootprint [] [.node "property" []]) =
      [⟨.drawings, "Drawings on Cu", [⟨"fp_line", [.node "layer" [.atom "Cu"]]⟩]⟩,
        ⟨.properties, "Properties", [⟨"property", []⟩]⟩] := by cbv
  obtain ⟨⟨layer, sections⟩, body⟩ : ∃ result,
      (draftBody (annotatedFootprint [brokenProperty.item] [])).outcome = .ok result := by
    rw [draftBody, draftSections, groups]
    exact ⟨_, rfl⟩
  obtain ⟨⟨layerToo, sectionsToo⟩, bodyToo⟩ : ∃ result,
      (draftBody (annotatedFootprint [] [.node "property" []])).outcome = .ok result := by
    rw [draftBody, draftSections, groupsToo]
    exact ⟨_, rfl⟩
  obtain ⟨first, converted⟩ : ∃ first,
      convert {} (annotatedFootprint [brokenProperty.item] []) = .ok first :=
    ⟨_, convert_eq_ok.mpr ⟨.inl rfl, layer, sections, body, rfl⟩⟩
  obtain ⟨second, convertedToo⟩ : ∃ second,
      convert {} (annotatedFootprint [] [.node "property" []]) = .ok second :=
    ⟨_, convert_eq_ok.mpr ⟨.inl rfl, layerToo, sectionsToo, bodyToo, rfl⟩⟩
  have oneLine : HeadsOneLine (annotatedFootprint [brokenProperty.item] []) := by
    unfold HeadsOneLine
    decide
  have same : bare (annotatedFootprint [brokenProperty.item] []) =
      bare (annotatedFootprint [] [.node "property" []]) := rfl
  obtain ⟨-, -, -, lines, texts⟩ :=
    convert_properties same (by decide) oneLine converted convertedToo
  exact ⟨first, second, converted, convertedToo, lines (by decide), fun defaults => (texts defaults).2⟩

end Conversion

end FootprintTemplate
