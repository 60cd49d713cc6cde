import FootprintTemplate.Proofs.NetNamer
import FootprintTemplate.Proofs.Preview.Loading
import FootprintTemplate.Proofs.Preview.Placed
import Mathlib.Data.List.Permutation

/-! Rendered modules. The text that a module renders is read as its footprint, placed on the board.
-/
namespace FootprintTemplate.Preview

open Sexpr (IsAtomText Item Node maxDepth)
open Template (Fragment)
open Writer (Draft IsSpelt Stance placed)

section Children

variable {footprint child : Node}

theorem atom_mem_items {text : String} (member : text ∈ footprint.atoms) :
    .atom text ∈ footprint.items := by
  obtain ⟨item, inside, same⟩ := List.mem_filterMap.mp member
  cases item with
  | atom => cases same; exact inside
  | node => cases same

end Children

section Tree

variable {stance : Stance} {placement : Placement} {footprint : Node}

theorem forall_placedFootprint (property : Item → Prop)
    (atoms : ∀ text, .atom text ∈ footprint.items → property (.atom (Writer.cooked text)))
    (place : property (atItem placement))
    (children : ∀ child : Node, child.item ∈ footprint.items →
      property ((placed stance).item (some footprint.kind) child.item)) :
    ∀ item ∈ (placedFootprint stance placement footprint).items, property item := by
  intro item member
  rcases List.mem_append.mp member with atom | member
  · obtain ⟨text, inside, rfl⟩ := List.mem_map.mp atom
    exact atoms text (atom_mem_items inside)
  · rcases List.mem_cons.mp member with rfl | shown
    · exact place
    · obtain ⟨child, inside, rfl⟩ := List.mem_map.mp shown
      exact children child
        (item_mem_items (mem_of_mem_writtenChildren (List.mem_filter.mp inside).1))

theorem isSpelt_placedFootprint (spelt : IsSpelt footprint.item) :
    IsSpelt (placedFootprint stance placement footprint).item := by
  obtain ⟨own, items⟩ := Writer.isSpelt_node.mp spelt
  have coordinate (value : Number.Double) : IsSpelt (coordinateItem value) := by
    rw [coordinateItem, Writer.isSpelt_atom, String.toList_ofList, coordinateChars]
    exact .bare (Number.isBare_placementStyle _)
  refine Writer.isSpelt_node.mpr ⟨own, forall_placedFootprint IsSpelt (fun text inside => ?_) ?_
    fun child inside => Writer.isSpelt_placed stance _ _ (items _ inside)⟩
  · exact Writer.isSpelt_atom.mpr
      (Writer.isAtomText_cooked (Writer.isSpelt_atom.mp (items _ inside)))
  · exact Writer.isSpelt_node.mpr ⟨.bare (by decide), by simp [coordinate]⟩

theorem chars_atItem (placement : Placement) : (atItem placement).chars = atChars placement := by
  have opening : "(at ".toList = '(' :: "at".toList ++ [' '] := rfl
  unfold atChars
  rw [opening]
  simp only [atItem, coordinateItem, Item.chars, Item.charsAll, String.toList_ofList,
    List.cons_append, List.nil_append, List.append_assoc]

theorem depth_atItem (placement : Placement) : (atItem placement).depth = 1 := by
  simp [atItem, coordinateItem, Item.depth, Item.depthAll]

theorem depth_placedFootprint :
    (placedFootprint stance placement footprint).depth ≤ footprint.depth + 1 := by
  have own := Item.depthAll_le.mp (Nat.le_refl (Item.depthAll footprint.items))
  rw [Node.depth, Node.depth, Node.item, Node.item, Item.depth, Item.depth]
  refine Nat.succ_le_succ (Item.depthAll_le.mpr (forall_placedFootprint
    (fun item => item.depth ≤ Item.depthAll footprint.items + 1) ?_ ?_ ?_))
  · intro text _
    rw [Writer.depth_atom]
    exact Nat.zero_le _
  · rw [depth_atItem]
    exact Nat.le_add_left _ _
  · intro child inside
    exact Nat.le_trans (Writer.depth_placed stance _ _) (Nat.succ_le_succ (own _ inside))

end Tree

section Words

theorem isSpelt_of_readable {node : Node} (readable : node.Readable) : IsSpelt node.item :=
  fun word member => (readable.lexemes word (Item.mem_flatten_of_mem_words _ member)).isAtomText
    (readable.words word member)

/-- No string among the words of the node is left open. -/
def IsClosed (node : Node) : Prop :=
  ∀ word ∈ node.item.words, Sexpr.Token.isUnclosed word.toList = false

instance (node : Node) : Decidable (IsClosed node) :=
  inferInstanceAs (Decidable (∀ word ∈ node.item.words, _))

theorem lexemes_of_isSpelt {node : Node} (spelt : IsSpelt node.item) (closed : IsClosed node) :
    ∀ text ∈ node.flatten, Sexpr.Lexeme text.toList := by
  intro text member
  exact Sexpr.lexeme_of_mem_flatten node.item
    (fun word inside => (spelt word inside).lexeme (closed word inside)) member

end Words

section Reading

variable {stance : Stance} {placement : Placement} {footprint : Node}

/-- The text of a placed footprint: its head on one line, then its place and its children. -/
def placedChars (stance : Stance) (placement : Placement) (footprint : Node) : List Char :=
  '(' :: (footprint.kind.toList ++
    (Item.charsAll (footprint.atoms.map fun text => .atom (Writer.cooked text)) ++
      (lineChars (atItem placement ::
          shownItems stance footprint.kind (writtenChildren footprint)) ++ ['\n', ')'])))

theorem tokenize_placedChars
    (lexemes : ∀ text ∈ (placedFootprint stance placement footprint).flatten,
      Sexpr.Lexeme text.toList) :
    (Sexpr.tokenize (String.ofList (placedChars stance placement footprint))).map
      Sexpr.Token.text = (placedFootprint stance placement footprint).flatten := by
  simp only [Node.flatten, Node.item, placedFootprint, Item.flatten, Item.flattenAll_append,
    List.mem_cons, List.mem_append, List.append_assoc] at lexemes ⊢
  have close : Sexpr.EndsBare ['\n', ')'] := Sexpr.endsBare_cons rfl _
  have lines : Sexpr.EndsBare (lineChars (atItem placement ::
      shownItems stance footprint.kind (writtenChildren footprint)) ++ ['\n', ')']) :=
    Sexpr.endsBare_cons rfl _
  have last (offset : Nat) :
      (Sexpr.tokensFrom offset ['\n', ')']).map Sexpr.Token.text = [")"] := by
    change (Sexpr.tokensFrom offset (['\n'] ++ [')'])).map _ = _
    rw [Sexpr.tokensFrom_gap offset (.blank rfl .nil), Sexpr.tokensFrom_closing,
      Sexpr.tokensFrom_nil]
    rfl
  rw [Sexpr.tokenize_eq_tokensFrom, String.toList_ofList, placedChars, Sexpr.tokensFrom_opening,
    List.map_cons, Sexpr.tokensFrom_lexeme _ (lexemes _ (.inr (.inl rfl)))
      fun _ => Sexpr.endsBare_charsAll _ lines, List.map_cons,
    Sexpr.tokensFrom_charsAll _ _ lines fun text inside => lexemes text (.inr (.inr (.inl inside))),
    tokensFrom_lineChars _ _ close fun text inside =>
      lexemes text (.inr (.inr (.inr (.inl inside)))), last]
  simp

theorem parse_placedChars (spelt : IsSpelt footprint.item)
    (closed : IsClosed (placedFootprint stance placement footprint)) :
    Sexpr.parse (String.ofList (placedChars stance placement footprint)) =
        .ok (placedFootprint stance placement footprint) ↔
      (placedFootprint stance placement footprint).depth ≤ maxDepth := by
  have own : IsSpelt (placedFootprint stance placement footprint).item :=
    isSpelt_placedFootprint spelt
  have lexemes := lexemes_of_isSpelt own closed
  constructor
  · exact fun read => (Sexpr.readable_of_parse read).depth
  · intro shallow
    have readable : (placedFootprint stance placement footprint).Readable :=
      ⟨lexemes, fun word member => (own word member).isWord, shallow⟩
    exact readable.parse (tokenize_placedChars lexemes)

end Reading

section Rendering

variable {config : Config} {footprint : Node} {conversion : Conversion} {loaded : Loaded}
  {placement : Placement}

/-- Names that a module reads for other things than nets. -/
def reservedNames : List String :=
  ["side", "at", "r", prototypeName]

def padNet (loaded : Loaded) (placement : Placement) (pad : String) : BoardNet :=
  ((boardNets placement.nets [] loaded.params).lookup (loaded.conversion.namer.netOf pad)).getD
    ⟨0, ""⟩

/-- How a loaded footprint stands on the board once it is placed. -/
def stanceOf (loaded : Loaded) (placement : Placement) : Stance where
  flip := placement.side != loaded.conversion.written.side.letter
  rotation := placement.r
  net := padNet loaded placement

theorem lookup_netTexts (name : String) :
    (netTexts loaded placement).lookup name =
      ((boardNets placement.nets [] loaded.params).lookup name).map BoardNet.text := by
  rw [netTexts]
  induction boardNets placement.nets [] loaded.params with
  | nil => rfl
  | cons entry rest ih =>
    rw [List.map_cons, List.lookup_cons, List.lookup_cons, ih]
    split <;> rfl

theorem flip_eq {side : Side} (known : placement.side = "F" ∨ placement.side = "B") :
    (placement.side == side.opposite.letter) = (placement.side != side.letter) := by
  rcases known with shown | shown <;> rw [shown] <;> cases side <;> rfl

/-- On a known side the module is filled in. -/
theorem fillIn_known (known : placement.side = "F" ∨ placement.side = "B") :
    fillIn loaded placement = .ok (String.ofList (loaded.conversion.written.fill
      (placeLine loaded placement)
      (filling loaded placement (placement.side != loaded.conversion.written.side.letter)))) := by
  simp only [fillIn, flip_eq known, Bool.not_and_self, Bool.false_eq_true, if_false]

theorem load_members {conversion : Conversion} (enclosed : conversion.written.isEnclosed = true)
    (script : conversion.written.isScript = true) (defaults : List (String × String)) :
    ∃ params, load conversion defaults = .ok { conversion, params } ∧
      ∀ name param, (name, param) ∈ params ↔
        ∃ value, (name, value) ∈ declaredParams conversion.written defaults ∧
          Param.read value = .ok param := by
  obtain ⟨params, readable, mem⟩ := readParams_members conversion.written defaults
  exact ⟨params, by simp [load, enclosed, script, readable], mem⟩

theorem load_eq_ok_iff {conversion : Conversion} {loaded : Loaded}
    {defaults : List (String × String)} (enclosed : conversion.written.isEnclosed = true) :
    load conversion defaults = .ok loaded ↔ conversion.written.isScript = true ∧
      ∃ params, readParams (.record (declaredParams conversion.written defaults)) = .ok params ∧
        loaded = { conversion, params } := by
  unfold load
  rw [enclosed]
  cases script : conversion.written.isScript with
  | false => simp
  | true =>
    cases readParams (.record (declaredParams conversion.written defaults)) with
    | error => simp
    | ok params => simp [eq_comm]

theorem load_eq_ok {conversion : Conversion} (enclosed : conversion.written.isEnclosed = true)
    (script : conversion.written.isScript = true) (defaults : List (String × String)) :
    ∃ params, load conversion defaults = .ok { conversion, params } ∧
      AreParams conversion.written params := by
  obtain ⟨params, loads, mem⟩ := load_members enclosed script defaults
  exact ⟨params, loads, (areParams_of_members mem).1⟩

theorem load_sorted {conversion : Conversion} {defaults : List (String × String)}
    {params : List (String × Param)} (enclosed : conversion.written.isEnclosed = true)
    (script : conversion.written.isScript = true)
    (sorted : (declaredParams conversion.written defaults).Pairwise (·.1 ≤ ·.1))
    (reads : (declaredParams conversion.written defaults).mapM readMember = .ok params) :
    load conversion defaults = .ok { conversion, params } := by
  have inOrder : byName (declaredParams conversion.written defaults) =
      declaredParams conversion.written defaults :=
    List.mergeSort_of_pairwise (sorted.imp decide_eq_true)
  simp [load, enclosed, script, readParams, inOrder, reads]

theorem netOf_mem_nets (converted : convert config footprint = .ok conversion) {pad : String}
    (asked : pad ∈ (draftBody footprint).pads) :
    conversion.namer.netOf pad ∈ conversion.written.nets := by
  obtain ⟨-, layer, sections, -, shape⟩ := convert_eq_ok.mp converted
  rw [shape]
  exact NetNamer.netOf_mem_paramNames (NetNamer.isSome_lookup_nameAll asked)

section Loaded

variable (converted : convert config footprint = .ok loaded.conversion)
  (params : AreParams loaded.conversion.written loaded.params)
  (apart : ∀ net ∈ loaded.conversion.written.nets, net ∉ reservedNames)

include params apart

theorem lookup_of_mem_reservedNames {name : String} (reserved : name ∈ reservedNames) :
    (netTexts loaded placement).lookup name = none := by
  rw [lookup_netTexts, Option.map_eq_none_iff, ← Option.not_isSome_iff_eq_none]
  intro found
  obtain ⟨-, param, inside, isNet⟩ := isSome_lookup_boardNets.mp found
  exact apart name (params.onlyNets name param inside isNet) reserved

include converted

theorem memberText_pad {pad : String} (asked : pad ∈ (draftBody footprint).pads) :
    memberText placement (netTexts loaded placement) (loaded.conversion.namer.netOf pad) =
      (padNet loaded placement pad).text := by
  have declared := netOf_mem_nets converted asked
  have other := apart _ declared
  simp only [reservedNames, List.mem_cons, not_or] at other
  have found : ((boardNets placement.nets [] loaded.params).lookup
      (loaded.conversion.namer.netOf pad)).isSome = true :=
    isSome_lookup_boardNets.mpr ⟨other.1, params.declared _ declared other.2.2.2.1⟩
  obtain ⟨net, found⟩ := Option.isSome_iff_exists.mp found
  rw [memberText, lookup_netTexts, padNet, found]
  rfl

theorem fits_filling (known : placement.side = "F" ∨ placement.side = "B") :
    (stanceOf loaded placement).Fits (draftBody footprint).pads (filling loaded placement
      (placement.side == loaded.conversion.written.side.opposite.letter)) := by
  refine ⟨flip_eq known, ?_, fun pad asked => memberText_pad converted params apart asked⟩
  rw [filling, lookup_of_mem_reservedNames params apart (by decide)]
  rfl

theorem fillIn_eq (known : placement.side = "F" ∨ placement.side = "B") :
    fillIn loaded placement =
      .ok (String.ofList (placedChars (stanceOf loaded placement) placement footprint)) := by
  have fits := fits_filling converted params apart known
  obtain ⟨root, layer, sections, ok, shape⟩ := convert_eq_ok.mp converted
  have place : placeLine loaded placement = (atItem placement).chars := by
    rw [placeLine, lookup_of_mem_reservedNames params apart (by decide), chars_atItem]
    rfl
  -- The kind is written out again as it stands, and roots have no kind with a carriage return.
  have kind : Writer.cooked footprint.kind = footprint.kind := by
    rcases root with footprint | legacy
    · rw [footprint]; exact Writer.cooked_eq_self (by decide)
    · rw [legacy]; exact Writer.cooked_eq_self (by decide)
  have head : loaded.conversion.written.header = header footprint := by rw [shape]
  have statements : loaded.conversion.written.statements =
      layer.toList ++ sections.flatMap Section.statements := by rw [shape]; rfl
  have lines := (gathers_shows footprint.kind).draftBody ok _ fits
  rw [← statements] at lines
  rw [fillIn_known known, ← flip_eq known, Module.fill, join_eq, head, fill_header, kind, place,
    lines, placedChars]
  simp [lineChars, List.flatMap_map]

end Loaded

end Rendering

/-- A pad with a net, and effects that get a justification. -/
def tabFootprint : Node :=
  ⟨"footprint", [.atom "R", .node "pad" [.atom "tab", .node "at" [.atom "1", .atom "2"]],
    .node "effects" []]⟩

def tabConversion : Conversion where
  written :=
    { designator := "XX"
      side := .front
      nets := ["tab"]
      header := header tabFootprint
      layer := none
      sections := [
        ⟨"Unknown", [⟨false, [.punct "(effects", .punct " ", .punct "(justify", .mirrorFlag false,
          .punct ")", .punct ")"]⟩]⟩,
        ⟨"Pads", [⟨false, [.punct "(pad \"", .source "tab", .punct "\"", .punct " ",
          .punct "(at ", .coordinate "1", .punct " ", .source "2", .punct " ", .rotation none,
          .punct ")", .punct " ", .net "tab", .punct ")"]⟩]⟩] }
  namer := ⟨{}, [("tab", "tab")]⟩

def tabLoaded : Loaded where
  conversion := tabConversion
  params := [("designator", ⟨.string, false, some "XX"⟩), ("side", ⟨.string, false, some "F"⟩),
    ("tab", ⟨.net, true, none⟩)]

theorem parse_tab :
    Sexpr.parse "(footprint R (pad tab (at 1 2)) (effects))" = .ok tabFootprint :=
  Sexpr.parse_eq_ok.mpr ⟨by decide, by decide, by decide, by decide⟩

theorem paramNames_tab : (namerOf {} tabFootprint).paramNames = ["tab"] :=
  List.mergeSort_singleton ..

theorem convert_tab :
    convertText {} "(footprint R (pad tab (at 1 2)) (effects))" = .ok tabConversion :=
  convertText_eq_ok.mpr ⟨_, parse_tab,
    convert_eq_ok.mpr ⟨.inl rfl, none, _, rfl, by rw [paramNames_tab]; rfl⟩⟩

theorem load_tab : load tabConversion [] = .ok tabLoaded :=
  load_sorted rfl rfl (by decide) rfl

def plainConversion (designator : String) (nets : List String) (footprint : Node)
    (layer : Option Statement) (sections : List Section) : Conversion where
  written := { designator, side := .front, nets, header := header footprint, layer, sections }
  namer := ⟨{ designator }, nets.map fun net => (net, net)⟩

end FootprintTemplate.Preview
