import FootprintTemplate.Proofs.Failure
import FootprintTemplate.Proofs.Preview.Rendered
import FootprintTemplate.Proofs.Writer.Requoted

/-! Names of a conversion that are written back between quotes. Each is read as one string unless
the source has it bare with a backslash at its end. -/
namespace FootprintTemplate

open Preview (isSpelt_of_readable load load_sorted plainConversion)
open Sexpr (IsBare Item Lexeme Node quoted tokenize)
open Template (fill)
open Writer (AllClosable IsLexed IsOneString IsSpelt Stance Visit cooked nameAtoms ownName placed
  visits writeItem)

section Conversion

variable {config : Config} {footprint : Node} {conversion : Conversion} {visit : Visit}

theorem misshapen?_visited (converted : convert config footprint = .ok conversion) :
    ∀ visit ∈ visited footprint, visit.misshapen? = none := by
  obtain ⟨-, layer, sections, ok, -⟩ := convert_eq_ok.mp converted
  have none := failure?_draftBody footprint
  rw [Writer.Draft.failure?, ok] at none
  exact List.findSome?_eq_none_iff.mp none.symm

/-- The nodes that are visited are part of the footprint, and all that is visited in them is too. -/
theorem isWithin_visited (member : visit ∈ visited footprint) :
    visit.IsWithin (visited footprint) footprint.item.words := by
  obtain ⟨child, inside, own⟩ := List.mem_flatMap.mp member
  refine (Writer.isWithin_visits _ child.item own).mono ?_ ?_
  · exact fun other inner => List.mem_flatMap.mpr ⟨child, inside, inner⟩
  · have isItem := Preview.item_mem_items (Preview.mem_of_mem_writtenChildren inside)
    intro word member
    rw [Node.item, Item.words, Item.wordsAll_eq_flatMap]
    exact List.mem_cons_of_mem _ (List.mem_flatMap.mpr ⟨_, isItem, member⟩)

/-- A text is read as the tokens of an item. -/
def ReadAs (chars : List Char) (item : Item) : Prop :=
  (tokenize (String.ofList chars)).map Sexpr.Token.text = item.flatten

/-- A name of the node is an atom that ends in a backslash. -/
def HasOpenName (visit : Visit) : Prop :=
  ∃ atom ∈ nameAtoms visit.rule visit.node.items, atom.toList.getLast? = some '\\'

instance (visit : Visit) : Decidable (HasOpenName visit) :=
  inferInstanceAs (Decidable (∃ atom ∈ nameAtoms visit.rule visit.node.items, _))

/-- Nets whose names can be quoted fill the places of a node on its own face. -/
structure FillsOwnFace (stance : Stance) (visit : Visit) (filling : Template.Filling) : Prop where
  flip : stance.flip = false
  fits : stance.Fits (writeItem visit.parent visit.node.item).pads filling
  nets : ∀ pad, (stance.net pad).name.toList.getLast? ≠ some '\\'

/-- A name that a pad or a layer strips of its quotes is read as one string again, on its own face,
unless it is bare and ends in a backslash. The text of a node is read item by item if no such name
is in it, and only if the node has none itself. -/
theorem convert_requoted {text : String} (converted : convertText config text = .ok conversion) :
    ∃ footprint, Sexpr.parse text = .ok footprint ∧ ∀ visit ∈ visited footprint,
      (∀ atom ∈ nameAtoms visit.rule visit.node.items,
        (IsOneString (ownName visit.rule atom) ↔ atom.toList.getLast? ≠ some '\\') ∧
          (atom.toList.getLast? = some '\\' → IsBare atom.toList)) ∧
      ∃ fragments, (writeItem visit.parent visit.node.item).outcome = .ok fragments ∧
        ∀ stance filling, FillsOwnFace stance visit filling →
          ∃ items rest, fill filling fragments = (Item.node (cooked visit.node.kind) items).chars ∧
            items = (nameAtoms visit.rule visit.node.items).map
              (fun atom => .atom (quoted (ownName visit.rule atom))) ++ rest ∧
            (HasOpenName visit →
              ¬ReadAs (fill filling fragments) (.node (cooked visit.node.kind) items)) ∧
            ((∀ inner ∈ visits visit.parent visit.node.item, ¬HasOpenName inner) →
              ReadAs (fill filling fragments) (.node (cooked visit.node.kind) items)) := by
  obtain ⟨footprint, read, converted⟩ := convertText_eq_ok.mp converted
  have readable := Sexpr.readable_of_parse read
  refine ⟨footprint, read, fun visit member => ?_⟩
  have within := isWithin_visited member
  have lexed : IsLexed visit.node.item := fun word inside =>
    readable.lexemes word (Item.mem_flatten_of_mem_words _ (within.words inside))
  have spelt : IsSpelt visit.node.item := fun word inside =>
    isSpelt_of_readable readable word (within.words inside)
  have sound := fun inner inside => misshapen?_visited converted inner (within.visits inside)
  have atomText {atom : String} (named : atom ∈ nameAtoms visit.rule visit.node.items) :
      Lexeme atom.toList ∧ Sexpr.IsAtomText atom.toList := by
    have inside := Writer.mem_of_mem_nameAtoms named
    exact ⟨Writer.isLexed_atom.mp ((Writer.isLexed_node.mp lexed).2 _ inside),
      Writer.isSpelt_atom.mp ((Writer.isSpelt_node.mp spelt).2 _ inside)⟩
  have one {atom : String} (named : atom ∈ nameAtoms visit.rule visit.node.items) :
      IsOneString (ownName visit.rule atom) ↔ atom.toList.getLast? ≠ some '\\' := by
    obtain ⟨lexeme, text⟩ := atomText named
    rw [Writer.isOneString_iff (Writer.isQuotable_ownName _ text)]
    exact (Writer.getLast?_ownName _ lexeme text.isWord).not
  obtain ⟨fragments, written⟩ := Writer.exists_written sound
  refine ⟨fun atom named => ⟨one named, ?_⟩, fragments, written, fun stance filling own => ?_⟩
  · obtain ⟨lexeme, text⟩ := atomText named
    exact Writer.isBare_of_getLast? lexeme text.isWord
  · have met := Visit.misshapen?_eq_none.mp (misshapen?_visited converted visit member)
    obtain ⟨rest, names⟩ := Writer.placedItems_names own.flip met
    have filled := Writer.fills_item stance visit.parent visit.node.item within.shown fragments
      written filling own.fits
    rw [filled]
    refine ⟨_, rest, rfl, names, ?_, ?_⟩
    · rintro ⟨atom, named, slash⟩ read
      have placed := (Writer.isLexed_node.mp (Writer.tokenize_chars_iff.mp read)).2
      have shown : Item.atom (quoted (ownName visit.rule atom)) ∈ _ :=
        names ▸ List.mem_append_left rest (List.mem_map.mpr ⟨atom, named, rfl⟩)
      exact (one named).mp (Writer.isOneString_of_lexeme
        (Writer.isLexed_atom.mp (placed _ shown))) slash
    · intro closable
      refine Writer.tokenize_chars_iff.mpr (Writer.isLexed_placed own.flip own.nets visit.parent
        visit.node.item lexed spelt (fun inner inside => ⟨sound inner inside, ?_⟩) within.shown)
      exact fun atom named slash => closable inner inside ⟨atom, named, slash⟩

/-- A pad whose quoted name holds a quote, with layers in it. -/
def quotedPad : Node :=
  ⟨"pad", [.atom "\"1\\\"\"", .atom "smd", .node "layers" [.atom "F.Cu"]]⟩

def plainStance : Stance where
  flip := false
  rotation := .zero false
  net := fun _ => ⟨1, "N"⟩

def plainFilling : Template.Filling where
  flip := false
  rotation := .inl (.zero false)
  net := fun _ => (Preview.BoardNet.text ⟨1, "N"⟩)

theorem convert_requoted_quotedPad :
    ∃ conversion,
      convertText {} "(footprint a (pad \"1\\\"\" smd (layers F.Cu)))" = .ok conversion ∧
      IsOneString "1\\\"" ∧ ∃ fragments,
        (writeItem (some "footprint") quotedPad.item).outcome = .ok fragments ∧
        FillsOwnFace plainStance ⟨some "footprint", quotedPad⟩ plainFilling ∧
        ∃ items, ReadAs (fill plainFilling fragments) (.node "pad" items) := by
  have read : Sexpr.parse "(footprint a (pad \"1\\\"\" smd (layers F.Cu)))" =
      .ok ⟨"footprint", [.atom "a", quotedPad.item]⟩ :=
    Sexpr.parse_eq_ok.mpr ⟨by decide, by decide, by decide, by decide⟩
  obtain ⟨conversion, converted⟩ :
      ∃ conversion, convert {} ⟨"footprint", [.atom "a", quotedPad.item]⟩ = .ok conversion :=
    ⟨_, convert_eq_ok.mpr ⟨.inl rfl, _, _, rfl, rfl⟩⟩
  have converted := convertText_eq_ok.mpr ⟨_, read, converted⟩
  obtain ⟨footprint, same, requoted⟩ := convert_requoted converted
  cases Except.ok.inj (read.symm.trans same)
  obtain ⟨names, fragments, written, filled⟩ :=
    requoted ⟨some "footprint", quotedPad⟩ List.mem_cons_self
  have own : FillsOwnFace plainStance ⟨some "footprint", quotedPad⟩ plainFilling :=
    ⟨rfl, ⟨rfl, rfl, fun _ _ => rfl⟩, fun _ => (by decide : "N".toList.getLast? ≠ some '\\')⟩
  obtain ⟨items, -, -, -, -, keeps⟩ := filled plainStance plainFilling own
  refine ⟨conversion, converted, ?_, fragments, written, own, items, keeps ?_⟩
  · exact (names "\"1\\\"\"" List.mem_cons_self).1.mpr (by decide)
  · decide

def slashFootprint : Node :=
  ⟨"footprint", [.atom "a", .node "layer" [.atom "b\\"]]⟩

def slashConversion : Conversion :=
  plainConversion "XX" [] ⟨"footprint", [.atom "a"]⟩
    (some ⟨false, [.punct "(layer ", .punct "\"", .source "b\\", .punct "\"", .punct ")"]⟩) []

theorem parse_slash : Sexpr.parse "(footprint a (layer b\\))" = .ok slashFootprint :=
  Sexpr.parse_eq_ok.mpr ⟨by decide, by decide, by decide, by decide⟩

theorem convert_slash : convert {} slashFootprint = .ok slashConversion := by cbv

theorem load_slash :
    load slashConversion [] = .ok { conversion := slashConversion, params :=
      [("designator", ⟨.string, false, some "XX"⟩), ("side", ⟨.string, false, some "F"⟩)] } :=
  load_sorted rfl rfl (by decide) rfl

/-- A layer whose bare name ends in a backslash is rendered as a string that is never closed. -/
theorem convert_reopened_slash :
    ∃ conversion loaded, convertText {} "(footprint a (layer b\\))" = .ok conversion ∧
      Preview.load conversion [] = .ok loaded ∧
      Preview.render loaded {} = .ok "(footprint a\n(at 0 0 0)\n(layer \"b\\\")\n)" ∧
      (tokenize "(layer \"b\\\")").map Sexpr.Token.text = ["(", "layer", "\"b\\\")"] ∧
      ¬IsOneString (ownName .layer "b\\") := by
  refine ⟨_, _, convertText_eq_ok.mpr ⟨_, parse_slash, convert_slash⟩,
    load_slash, rfl, by decide, fun one => absurd one.closed (by decide)⟩

end Conversion

end FootprintTemplate
