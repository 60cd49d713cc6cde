import FootprintTemplate.Proofs.Writer.Misshapen
import FootprintTemplate.Proofs.Writer.Mirror
import FootprintTemplate.Proofs.Writer.PlacedWords
import FootprintTemplate.Proofs.Writer.Turned

/-! Trees that are placed once more. On its own side, and not turned, a placed tree stays as it is
when it is placed again, and it can be written as its source can. -/
namespace FootprintTemplate.Writer

open Number (Reprints)
open Sexpr (IsAtomText IsClosable IsEscaped IsWord Item Lexeme Node unquote quoted)
open Template (Fragment)

section Words

/-- A word of a text without carriage returns. -/
structure IsPlainWord (word : String) : Prop where
  lexeme : Lexeme word.toList
  isWord : IsWord word
  plain : '\r' ∉ word.toList

/-- A name that can be quoted as one token, without carriage returns. -/
structure IsName (name : String) : Prop where
  closable : IsClosable name.toList
  plain : '\r' ∉ name.toList

def IsPlain (item : Item) : Prop :=
  ∀ word ∈ item.words, IsPlainWord word

def IsLexed (item : Item) : Prop :=
  ∀ word ∈ item.words, Lexeme word.toList

theorem isPlain_node {kind : String} {items : List Item} :
    IsPlain (.node kind items) ↔ IsPlainWord kind ∧ ∀ item ∈ items, IsPlain item :=
  Item.forall_words_node IsPlainWord

theorem isLexed_node {kind : String} {items : List Item} :
    IsLexed (.node kind items) ↔ Lexeme kind.toList ∧ ∀ item ∈ items, IsLexed item :=
  Item.forall_words_node fun word => Lexeme word.toList

theorem isPlain_atom {text : String} : IsPlain (.atom text) ↔ IsPlainWord text := by
  simp [IsPlain, Item.words]

theorem isLexed_atom {text : String} : IsLexed (.atom text) ↔ Lexeme text.toList := by
  simp [IsLexed, Item.words]

theorem IsPlainWord.cooked {word : String} (plain : IsPlainWord word) : cooked word = word :=
  cooked_eq_self plain.plain

theorem IsName.cooked {name : String} (isName : IsName name) : cooked name = name :=
  cooked_eq_self isName.plain

theorem IsName.lexeme {name : String} (isName : IsName name) : Lexeme (quoted name).toList := by
  rw [Sexpr.toList_quoted]
  exact .quoted isName.closable

theorem IsName.isPlainWord {name : String} (isName : IsName name) : IsPlainWord (quoted name) := by
  refine ⟨isName.lexeme, ?_, ?_⟩
  · exact (isSpelt_atom.mp (isSpelt_quoted ⟨isName.closable.1⟩)).isWord
  · rw [Sexpr.toList_quoted, Sexpr.quotedChars]
    simpa using isName.plain

theorem isPlainWord_of_isBare {word : String} (bare : Sexpr.IsBare word.toList) :
    IsPlainWord word := by
  refine ⟨.bare bare, (IsAtomText.bare bare).isWord, fun carriage => ?_⟩
  have ends := bare.2 '\r' carriage
  contradiction

theorem IsPlainWord.isName {text : String} (word : IsPlainWord text)
    (last : (unquote text).toList.getLast? ≠ some '\\') : IsName (unquote text) := by
  refine ⟨⟨(isQuotable_unquote (word.lexeme.isAtomText word.isWord)).escaped, last⟩, ?_⟩
  intro carriage
  rw [unquote, String.toList_ofList] at carriage
  exact word.plain (Sexpr.unquotedChars_subset _ carriage)

theorem isLexed_netItem {net : Preview.BoardNet} (last : net.name.toList.getLast? ≠ some '\\') :
    IsLexed (netItem net) := by
  have index : IsLexed (.atom (toString net.index)) := by
    rw [isLexed_atom, Nat.toString_eq_repr, Nat.toList_repr]
    exact .bare ((Number.isPrinted_toDigits _).isBare Nat.toDigits_ne_nil)
  have name : IsLexed (.atom (String.ofList (Script.stringLiteral net.name.toList))) := by
    rw [isLexed_atom, String.toList_ofList]
    exact Script.lexeme_stringLiteral last
  exact isLexed_node.mpr ⟨.bare (by decide), List.forall_mem_cons.mpr
    ⟨index, List.forall_mem_singleton.mpr name⟩⟩

end Words

section Stances

/-- On the footprint's own side and not turned. The names of nets can be quoted. -/
structure Stance.IsUpright (stance : Stance) : Prop where
  flip : stance.flip = false
  rotation : ∃ sign, stance.rotation = .zero sign
  net : ∀ pad, (stance.net pad).name.toList.getLast? ≠ some '\\'

variable {stance : Stance} {parent : Option String} {kind text : String} {items : List Item}

theorem placed_atom (parent : Option String) (plain : IsPlainWord text) :
    (placed stance).item parent (.atom text) = .atom text := by
  rw [Rewriting.item]
  exact congrArg Item.atom plain.cooked

/-- The items of a node that are shown, as they are placed. -/
def keptItems (stance : Stance) (kind : String) (items : List Item) : List Item :=
  kept kind ((placed stance).items kind items)

theorem keptItems_eq (stance : Stance) (kind : String) (items : List Item) :
    keptItems stance kind items =
      (items.filter (!isLeftOut (some kind) ·)).map ((placed stance).item (some kind)) := by
  rw [keptItems, kept, Rewriting.filter_source _ kind items (!isLeftOut (some kind) ·), results,
    Rewriting.items_eq_map, List.map_map]
  rfl

theorem keptItems_append (first second : List Item) :
    keptItems stance kind (first ++ second) =
      keptItems stance kind first ++ keptItems stance kind second := by
  simp only [keptItems_eq, List.filter_append, List.map_append]

theorem keptItems_fixed (shown : ∀ item ∈ items, isLeftOut (some kind) item = false)
    (fixed : ∀ item ∈ items, (placed stance).item (some kind) item = item) :
    keptItems stance kind items = items := by
  rw [keptItems_eq, List.filter_eq_self.mpr fun item member => by rw [shown item member]; rfl]
  exact (List.map_congr_left fixed).trans (List.map_id items)

theorem isLeftOut_placed {item : Item} (plain : IsPlain item) :
    isLeftOut parent ((placed stance).item parent item) = isLeftOut parent item := by
  cases item with
  | atom => rfl
  | node kind items =>
    have own : (placed stance).word kind = kind := (isPlain_node.mp plain).1.cooked
    rw [Rewriting.item, own]
    rfl

theorem mem_keptItems {item : Item} :
    item ∈ keptItems stance kind items ↔
      ∃ source ∈ items, isLeftOut (some kind) source = false ∧
        (placed stance).item (some kind) source = item := by
  simp [keptItems_eq, and_assoc]

theorem shown_keptItems (plain : ∀ item ∈ items, IsPlain item) :
    ∀ item ∈ keptItems stance kind items, isLeftOut (some kind) item = false := by
  intro item member
  obtain ⟨source, inside, shown, rfl⟩ := mem_keptItems.mp member
  exact (isLeftOut_placed (plain source inside)).trans shown

end Stances

section Arrangements

variable {stance : Stance} {rule : Rule} {kind : String} {items : List Item}

theorem placedItems_generic (plain : rule ∈ [.modelOffset, .property, .fallback])
    (items : List Item) :
    placedItems stance rule kind ((placed stance).items kind items) =
      keptItems stance kind items := by
  simp only [List.mem_cons, List.not_mem_nil, or_false] at plain
  obtain rfl | rfl | rfl := plain <;> rfl

theorem placedItems_pad (text : String) (rest : List Item) :
    placedItems stance .pad kind ((placed stance).items kind (.atom text :: rest)) =
      .atom (quoted (cooked (unquote text))) :: (keptItems stance kind rest ++
        if unquote text == "" then [] else [netItem (stance.net (unquote text))]) := rfl

theorem placedItems_xy (x y : String) :
    placedItems stance .xy kind ((placed stance).items kind [.atom x, .atom y]) =
      [placedX stance.flip x, .atom y] := rfl

theorem placedItems_layer (text : String) (rest : List Item) :
    placedItems stance .layer kind ((placed stance).items kind (.atom text :: rest)) =
      placedLayer stance.flip (unquote text) :: keptItems stance kind rest := rfl

theorem placedItems_layers (names : List String) :
    placedItems stance .layers kind ((placed stance).items kind (names.map .atom)) =
      names.map fun name => placedEntry stance.flip (.atom name) := by
  rw [placedItems, Rewriting.items_eq_map, List.map_map, List.map_map]
  rfl

theorem placedItems_at {x y : String} {delta : Option String} {flags : List String}
    (placement : IsPlacement x y delta flags) (plain : ∀ flag ∈ flags, IsPlainWord flag) :
    placedItems stance .at kind ((placed stance).items kind (placementItems x y delta flags)) =
      placedAtX stance.flip x :: .atom y :: numberItem (turnedBy stance.rotation delta) ::
        flags.map .atom := by
  have fixed : results ((placed stance).items kind (flags.map .atom)) = flags.map .atom := by
    rw [results, Rewriting.items_eq_map, List.map_map, List.map_map]
    exact List.map_congr_left fun flag member => placed_atom (some kind) (plain flag member)
  rw [placementItems, Rewriting.items, Rewriting.items, placedItems, takeDelta_items placement,
    fixed]

theorem placedItems_effects (items : List Item) :
    placedItems stance .effects kind ((placed stance).items kind items) =
      keptItems stance kind items ++
        if items.any isJustify then [] else [Item.node "justify" (mirrorWords stance.flip)] := by
  rw [placedItems, Rewriting.any_source _ kind items isJustify]
  rfl

theorem placedItems_justify (items : List Item) :
    placedItems stance .justify kind ((placed stance).items kind items) =
      keptItems stance kind (items.filter (!isMirrorWord ·)) ++
        mirrorWords (items.any isMirrorWord != stance.flip) := by
  rw [placedItems, Rewriting.any_source _ kind items isMirrorWord,
    Rewriting.filter_source _ kind items (!isMirrorWord ·)]
  rfl

end Arrangements

section Coordinates

/-- An X coordinate as a script prints it. -/
structure IsPrintedX (x : String) : Prop where
  number : Number.isNumber x = true
  again : placedX false x = .atom x
  script : (Fragment.coordinate x).isScript = true
  word : IsPlainWord x

/-- An X coordinate of a placement, printed or left as it is. -/
structure IsSettledX (x : String) : Prop where
  number : Number.isNumber x = true
  again : placedAtX false x = .atom x
  script : (atCoordinate x).isScript = true
  word : IsPlainWord x

theorem isScript_printed {text : String} (printed : Number.IsPrinted text.toList) :
    text.toList.all (·.toNat < 128) = true :=
  List.all_eq_true.mpr fun c member =>
    decide_eq_true (Number.toNat_lt_of_isPrintedChar (printed c member))

theorem placedX_printed {x : String} (reprints : Reprints x) :
    ∃ shown, placedX false x = .atom shown ∧ IsPrintedX shown := by
  have printed : Number.IsPrinted (Fragment.numberChars (Number.valueOf x.toList)) :=
    Number.Style.isPrinted_chars reprints.finite
  refine ⟨String.ofList (Fragment.numberChars (Number.valueOf x.toList)), rfl,
    reprints.isNumber, ?_, ?_, ?_⟩
  · rw [placedX, if_neg Bool.false_ne_true, String.toList_ofList]
    exact congrArg (fun chars => Item.atom (String.ofList chars)) reprints.again
  · refine isScript_printed ?_
    rwa [String.toList_ofList]
  · refine isPlainWord_of_isBare ?_
    rw [String.toList_ofList]
    exact Number.isBare_scriptStyle _

theorem IsPrintedX.settled {x : String} (printed : IsPrintedX x) : IsSettledX x := by
  refine ⟨printed.number, ?_, ?_, printed.word⟩
  · unfold placedAtX
    split
    · rfl
    · exact printed.again
  · unfold atCoordinate
    split
    · rfl
    · exact printed.script

end Coordinates

end FootprintTemplate.Writer
