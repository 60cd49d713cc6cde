import FootprintTemplate.Proofs.Preview.Simulated

/-! Rendered footprints as they are read back. What a conversion renders is the text of the placed tree,
and is read as that tree, as far as no string is left open and the parser goes as deep. -/
namespace FootprintTemplate.Preview

open Sexpr (IsAtomText Item Node maxDepth)
open Writer (Draft Stance placed)

/-- A converted footprint loads, and renders as the text of its placed tree, filled in directly and as a
script. With no string left open the text is read as that tree, unless the tree nests too deep. Only a
net or a justification can make it nest deeper than its source, and only by one level. -/
theorem render_placed {config : Config} {text : String} {conversion : Conversion}
    (converted : convertText config text = .ok conversion)
    (enclosed : conversion.written.isEnclosed = true)
    (script : conversion.written.isScript = true)
    (apart : ∀ net ∈ conversion.written.nets, net ∉ reservedNames)
    (defaults : List (String × String)) :
    ∃ footprint, Sexpr.parse text = .ok footprint ∧
      (∃ loaded, load conversion defaults = .ok loaded) ∧
      (IsShort conversion defaults → ∃ loaded, loadScript conversion defaults = .ok loaded) ∧
      ∀ loaded, IsLoaded conversion defaults loaded →
        ∀ placement : Placement, placement.side = "F" ∨ placement.side = "B" →
          ∃ tree out, tree = placedFootprint (stanceOf loaded placement) placement footprint ∧
            render loaded placement = .ok out ∧ tree.depth ≤ footprint.depth + 1 ∧
            (IsClosed tree → (Sexpr.parse out = .ok tree ↔ tree.depth ≤ maxDepth)) := by
  obtain ⟨footprint, read, converted⟩ := convertText_eq_ok.mp converted
  obtain ⟨direct, runs⟩ := exists_loaded converted enclosed script defaults
  refine ⟨footprint, read, direct, runs, fun loaded isLoaded placement known => ?_⟩
  have fills := isLoaded.fills converted enclosed script
  obtain ⟨rfl, reads, -⟩ := id fills
  have filled : fillIn loaded placement = _ :=
    fillIn_eq converted (areParams_of_readParams reads).1 apart known
  exact ⟨_, _, rfl, fills.render filled, depth_placedFootprint,
    parse_placedChars (isSpelt_of_readable (Sexpr.readable_of_parse read))⟩

theorem render_placed_tab :
    convertText {} "(footprint R (pad tab (at 1 2)) (effects))" = .ok tabConversion ∧
      tabConversion.written.isEnclosed = true ∧ tabConversion.written.isScript = true ∧
      (∀ net ∈ tabConversion.written.nets, net ∉ reservedNames) ∧ IsShort tabConversion [] ∧
      ∃ loaded out, loadScript tabConversion [] = .ok loaded ∧
        render loaded { side := "B" } = .ok out ∧
        Sexpr.parse out = .ok ⟨"footprint", [.atom "R",
          .node "at" [.atom "0", .atom "0", .atom "0"],
          .node "effects" [.node "justify" [.atom "mirror"]],
          .node "pad" [.atom "\"tab\"", .node "at" [.atom "-1", .atom "2", .atom "0"],
            .node "net" [.atom "1", .atom "\"tab\""]]]⟩ := by
  have apart : ∀ net ∈ tabConversion.written.nets, net ∉ reservedNames := by decide
  refine ⟨convert_tab, rfl, rfl, apart, isShort_tab, ?_⟩
  obtain ⟨footprint, read, -, runs, renders⟩ := render_placed convert_tab rfl rfl apart []
  obtain ⟨loaded, loads⟩ := runs isShort_tab
  have isLoaded : IsLoaded tabConversion [] loaded := .running isShort_tab loads
  obtain ⟨tree, out, shape, rendered, -, parses⟩ := renders loaded isLoaded { side := "B" } (.inr rfl)
  -- What was read and the parameters are known here, so the theorem speaks of these.
  cases Except.ok.inj (parse_tab.symm.trans read)
  obtain ⟨_, -, converted⟩ := convertText_eq_ok.mp convert_tab
  obtain ⟨-, _, reads, same⟩ := (load_eq_ok_iff rfl).mp load_tab
  cases same
  obtain ⟨session, rfl⟩ := (isLoaded.fills converted rfl rfl).exists_session reads
  change tree = placedFootprint (stanceOf tabLoaded { side := "B" }) { side := "B" } tabFootprint at shape
  refine ⟨_, out, loads, rendered, ?_⟩
  have same : tree = ⟨"footprint", [.atom "R", .node "at" [.atom "0", .atom "0", .atom "0"],
      .node "effects" [.node "justify" [.atom "mirror"]],
      .node "pad" [.atom "\"tab\"", .node "at" [.atom "-1", .atom "2", .atom "0"],
        .node "net" [.atom "1", .atom "\"tab\""]]]⟩ := shape.trans rfl
  subst same
  exact (parses (by decide)).mpr (by decide)

section Nested

def nestedEffects : Nat → List Item
  | 0 => []
  | n + 1 => [.node "effects" (nestedEffects n)]

def nestedFootprint (n : Nat) : Node :=
  ⟨"footprint", nestedEffects n⟩

theorem depth_nestedEffects (n : Nat) : Item.depthAll (nestedEffects n) = n := by
  induction n with
  | zero => rfl
  | succ n ih => simp [nestedEffects, Item.depthAll, Item.depth, ih]

theorem words_nestedEffects (n : Nat) :
    ∀ word ∈ Item.wordsAll (nestedEffects n), word = "effects" := by
  induction n with
  | zero => exact fun _ member => nomatch member
  | succ n ih =>
    intro word member
    simp only [nestedEffects, Item.wordsAll, Item.words, List.append_nil, List.mem_cons] at member
    exact member.elim id (ih word)

theorem parse_nestedFootprint {n : Nat} (shallow : n < maxDepth) :
    Sexpr.parse (nestedFootprint n).text = .ok (nestedFootprint n) := by
  have words : ∀ word ∈ (nestedFootprint n).item.words, word = "footprint" ∨ word = "effects" := by
    intro word member
    exact (List.mem_cons.mp member).imp id (words_nestedEffects n word)
  have depth : (nestedFootprint n).depth ≤ maxDepth := by
    rw [Node.depth, Node.item, Item.depth, nestedFootprint, depth_nestedEffects]
    exact shallow
  have bare : ∀ word ∈ (nestedFootprint n).item.words, Sexpr.IsBare word.toList := by
    intro word member
    rcases words word member with rfl | rfl <;> decide
  exact Sexpr.Node.Readable.parse_text ⟨fun text member => Sexpr.lexeme_of_mem_flatten _
    (fun word inside => .bare (bare word inside)) member,
    fun word member => (IsAtomText.bare (bare word member)).isWord, depth⟩

theorem depth_placed_nestedEffects (stance : Stance) (parent : Option String) (n : Nat) :
    ((placed stance).item parent (.node "effects" (nestedEffects n))).depth = n + 2 := by
  have justify := Writer.depth_justify stance.flip
  induction n generalizing parent with
  | zero =>
    change Item.depthAll [.node "justify" (Writer.mirrorWords stance.flip)] + 1 = 2
    rw [Item.depthAll, justify]
    rfl
  | succ n ih =>
    change Item.depthAll [(placed stance).item (some "effects") (.node "effects" (nestedEffects n)),
      .node "justify" (Writer.mirrorWords stance.flip)] + 1 = n + 3
    rw [Item.depthAll, Item.depthAll, ih, justify, Item.depthAll]
    omega

theorem write_nestedEffects (parent : Option String) (n : Nat) :
    ∃ fragments, Writer.writeItem parent (.node "effects" (nestedEffects n)) =
      .fragments fragments := by
  induction n generalizing parent with
  | zero => exact ⟨_, rfl⟩
  | succ n ih =>
    obtain ⟨fragments, written⟩ := ih (some "effects")
    have shape : Writer.writeItem parent (.node "effects" (nestedEffects (n + 1))) =
        Writer.writeEffects "effects"
          [⟨.node "effects" (nestedEffects n), .fragments fragments⟩] := by
      rw [← written]
      rfl
    have placed : Writer.placedAll "effects"
        [⟨.node "effects" (nestedEffects n), .fragments fragments⟩] =
          .fragments (.punct " " :: fragments) :=
      Draft.append_fragments_nil _
    rw [shape, Writer.writeEffects, placed]
    exact ⟨_, rfl⟩

theorem convert_nestedFootprint (n : Nat) :
    ∃ conversion, convert {} (nestedFootprint (n + 1)) = .ok conversion := by
  obtain ⟨fragments, written⟩ := write_nestedEffects (some "footprint") n
  have emit : (Writer.Rule.select (some "footprint") "effects").disposition ≠ .skip := by decide
  have statement : draftStatement "footprint" ⟨"effects", nestedEffects n⟩ =
      .pure (some ⟨false, fragments⟩) := by
    rw [draftStatement_write emit, Writer.write, Node.item, written]
    rfl
  have statements : draftStatements "footprint" [⟨"effects", nestedEffects n⟩] =
      .pure [⟨false, fragments⟩] := by
    rw [draftStatements, List.map_singleton, statement]
    rfl
  have groups : classify (nestedFootprint (n + 1)) =
      [⟨.unknown, "Unknown", [⟨"effects", nestedEffects n⟩]⟩] := rfl
  have sections : draftSections (nestedFootprint (n + 1)) =
      .pure [⟨"Unknown", [⟨false, fragments⟩]⟩] := by
    rw [draftSections, groups, List.map_singleton, nestedFootprint, statements]
    rfl
  have body : (draftBody (nestedFootprint (n + 1))).outcome =
      .ok (none, [⟨"Unknown", [⟨false, fragments⟩]⟩]) := by
    rw [draftBody, sections]
    rfl
  exact ⟨_, convert_eq_ok.mpr ⟨.inl rfl, none, _, body, rfl⟩⟩

theorem depth_placed_nestedFootprint (stance : Stance) (placement : Placement) (n : Nat) :
    (placedFootprint stance placement (nestedFootprint (n + 1))).depth = n + 3 := by
  have atoms : (nestedFootprint (n + 1)).atoms = [] := rfl
  have children : writtenChildren (nestedFootprint (n + 1)) = [⟨"effects", nestedEffects n⟩] := rfl
  have shown : shownItems stance "footprint" [⟨"effects", nestedEffects n⟩] =
      [(placed stance).item (some "footprint") (.node "effects" (nestedEffects n))] := rfl
  rw [Node.depth, Node.item, Item.depth, placedFootprint, atoms, children, nestedFootprint, shown]
  simp only [List.map_nil, List.nil_append, Item.depthAll, depth_atItem,
    depth_placed_nestedEffects]
  omega

end Nested

section Astray

/-- The text converts, but nothing that its module renders is read as the tree. -/
def Strays (config : Config) (text : String) (tree : Node) : Prop :=
  ∃ conversion, convertText config text = .ok conversion ∧
    ∀ loaded out, IsLoaded conversion [] loaded → render loaded {} = .ok out →
      Sexpr.parse out ≠ .ok tree

variable {config : Config} {text : String} {source tree : Node} {conversion : Conversion}

theorem Strays.of_render (read : Sexpr.parse text = .ok source)
    (converted : convert config source = .ok conversion)
    (enclosed : conversion.written.isEnclosed = true) (script : conversion.written.isScript = true)
    {params : List (String × Param)} (loads : load conversion [] = .ok { conversion, params })
    (out : String) (filled : fillIn { conversion, params } {} = .ok out)
    (other : (Sexpr.tokenize out).map Sexpr.Token.text ≠ tree.flatten) :
    Strays config text tree := by
  refine ⟨conversion, convertText_eq_ok.mpr ⟨_, read, converted⟩, ?_⟩
  intro loaded _ isLoaded renders parses
  have fills := isLoaded.fills converted enclosed script
  obtain ⟨-, _, reads, same⟩ := (load_eq_ok_iff enclosed).mp loads
  cases same
  obtain ⟨session, rfl⟩ := fills.exists_session reads
  have own := fills.render filled
  cases Except.ok.inj (own.symm.trans renders)
  exact other (Sexpr.parse_eq_ok.mp parses).texts

def origin : Item :=
  .node "at" [.atom "0", .atom "0", .atom "0"]

/-- A carriage return of the source is read as a line feed. -/
theorem strays_return : Strays {} "(footprint \"a\rb\")"
    ⟨"footprint", [.atom "\"a\rb\"", origin]⟩ := by
  have read : Sexpr.parse "(footprint \"a\rb\")" = .ok ⟨"footprint", [.atom "\"a\rb\""]⟩ :=
    Sexpr.parse_eq_ok.mpr ⟨by decide, by decide, by decide, by decide⟩
  have converted : convert {} ⟨"footprint", [.atom "\"a\rb\""]⟩ =
      .ok (plainConversion "XX" [] ⟨"footprint", [.atom "\"a\rb\""]⟩ none []) := by cbv
  exact .of_render read converted rfl rfl (load_sorted rfl rfl (by decide) rfl)
    "(footprint \"a\nb\"\n(at 0 0 0)\n)" rfl (by decide)

/-- A footprint that nests as deep as a text can is placed too deep. -/
theorem strays_nested (stance : Stance) : Strays {} (nestedFootprint 511).text
    (placedFootprint stance {} (nestedFootprint 511)) := by
  obtain ⟨conversion, converted⟩ := convert_nestedFootprint 510
  have read := parse_nestedFootprint (by decide : 511 < maxDepth)
  refine ⟨_, convertText_eq_ok.mpr ⟨_, read, converted⟩, fun loaded out _ _ same => ?_⟩
  have depth := (Sexpr.readable_of_parse same).depth
  rw [depth_placed_nestedFootprint] at depth
  exact absurd depth (by decide)

/-- Texts that convert, but are not read back as they are placed: a template gives back a line feed for
a carriage return, and the parser goes no deeper than the deepest source. -/
theorem render_altered :
    Strays {} "(footprint \"a\rb\")" ⟨"footprint", [.atom "\"a\rb\"", origin]⟩ ∧
      ∀ stance, Strays {} (nestedFootprint 511).text
        (placedFootprint stance {} (nestedFootprint 511)) :=
  ⟨strays_return, strays_nested⟩

end Astray

end FootprintTemplate.Preview
