import FootprintTemplate.Proofs.Sexpr.Layout
import FootprintTemplate.Proofs.Writer.Settling

/-! Names that are written back between quotes. The quotes keep a name in one piece unless it ends
in a backslash, and then the text of its node is read as other items. -/
namespace FootprintTemplate.Writer

open Sexpr (IsAtomText IsBare IsClosable IsWord Item Lexeme Node quoted quotedChars tokenize
  unquote)
open Template (Filling fill)

section Names

theorem lineFeeds_eq_nil {chars : List Char} : Script.lineFeeds chars = [] ↔ chars = [] := by
  fun_cases Script.lineFeeds chars <;> simp

theorem getLast?_cons_eq {chars : List Char} (c : Char) (nonempty : chars ≠ []) :
    (c :: chars).getLast? = chars.getLast? := by
  cases chars with
  | nil => exact absurd rfl nonempty
  | cons => rw [List.getLast?_cons_cons]

theorem getLast?_lineFeeds (chars : List Char) :
    (Script.lineFeeds chars).getLast? = some '\\' ↔ chars.getLast? = some '\\' := by
  fun_induction Script.lineFeeds chars with
  | case1 => simp
  | case2 rest ih =>
    by_cases nonempty : rest = []
    · simp [nonempty, Script.lineFeeds]
    · rw [getLast?_cons_eq _ (mt lineFeeds_eq_nil.mp nonempty), ih, List.getLast?_cons_cons,
        getLast?_cons_eq _ nonempty]
  | case3 c rest alone ih =>
    by_cases nonempty : rest = []
    · simp only [nonempty, Script.lineFeeds, List.getLast?_singleton, Option.some.injEq]
      split
      · rename_i feed
        rw [beq_iff_eq.mp feed]
        decide
      · exact Iff.rfl
    · rw [getLast?_cons_eq _ (mt lineFeeds_eq_nil.mp nonempty), ih, getLast?_cons_eq _ nonempty]

theorem getLast?_unquote {text : String} (lexeme : Lexeme text.toList) (word : IsWord text) :
    (unquote text).toList.getLast? = some '\\' ↔ text.toList.getLast? = some '\\' := by
  rw [unquote, String.toList_ofList]
  generalize shape : text.toList = chars at lexeme
  cases lexeme with
  | opening => exact absurd (String.toList_inj.mp shape) word.1
  | closing => exact absurd (String.toList_inj.mp shape) word.2
  | bare bare => rw [bare.unquotedChars]
  | quoted closable =>
    rw [Sexpr.unquotedChars_quotedChars]
    refine iff_of_false closable.2 ?_
    rw [quotedChars, ← List.cons_append, List.getLast?_concat]
    decide

theorem isBare_of_getLast? {text : String} (lexeme : Lexeme text.toList) (word : IsWord text)
    (slash : text.toList.getLast? = some '\\') : IsBare text.toList := by
  generalize shape : text.toList = chars at lexeme slash
  cases lexeme with
  | opening => exact absurd (String.toList_inj.mp shape) word.1
  | closing => exact absurd (String.toList_inj.mp shape) word.2
  | bare bare => exact bare
  | quoted closable =>
    rw [quotedChars, ← List.cons_append, List.getLast?_concat] at slash
    exact absurd slash (by decide)

theorem mem_of_mem_nameAtoms {rule : Rule} {items : List Item} {text : String}
    (named : text ∈ nameAtoms rule items) : .atom text ∈ items := by
  unfold nameAtoms at named
  split at named
  · rw [List.mem_singleton.mp named]
    exact List.mem_cons_self
  · rw [List.mem_singleton.mp named]
    exact List.mem_cons_self
  · obtain ⟨item, inside, same⟩ := List.mem_filterMap.mp named
    cases item with
    | atom own => cases same; exact inside
    | node => cases same
  · cases named

/-- A name as it stands on the footprint's own face. The name of a layer that hangs on a face is a
literal of the script, in which no line end changes. -/
def ownName (rule : Rule) (text : String) : String :=
  if rule = .layer ∧ (Layer.swapFace? (unquote text)).isSome = true then unquote text
  else cooked (unquote text)

theorem ownName_cases (rule : Rule) (text : String) :
    ownName rule text = unquote text ∨ ownName rule text = cooked (unquote text) := by
  unfold ownName
  split
  · exact .inl rfl
  · exact .inr rfl

theorem getLast?_ownName (rule : Rule) {text : String} (lexeme : Lexeme text.toList)
    (word : IsWord text) :
    (ownName rule text).toList.getLast? = some '\\' ↔ text.toList.getLast? = some '\\' := by
  rw [← getLast?_unquote lexeme word]
  rcases ownName_cases rule text with same | same <;> rw [same]
  rw [cooked, String.toList_ofList, getLast?_lineFeeds]

theorem isQuotable_ownName (rule : Rule) {text : String} (atom : IsAtomText text.toList) :
    IsQuotable (ownName rule text) := by
  rcases ownName_cases rule text with same | same <;> rw [same]
  · exact isQuotable_unquote atom
  · exact isQuotable_cooked (isQuotable_unquote atom)

/-- The quoted name is one closed string, which stands for the name. -/
structure IsOneString (name : String) : Prop where
  token : tokenize (quoted name) = [⟨quoted name, 0⟩]
  closed : Sexpr.Token.isUnclosed (quoted name).toList = false
  name : unquote (quoted name) = name

theorem isOneString_of_lexeme {name : String} (lexeme : Lexeme (quoted name).toList) :
    IsOneString name := by
  refine ⟨?_, Sexpr.isUnclosed_lexeme lexeme, Sexpr.unquote_quoted name⟩
  have read := Sexpr.tokensFrom_lexeme 0 lexeme fun _ => Sexpr.endsBare_nil
  rw [List.append_nil] at read
  rw [Sexpr.tokenize_eq_tokensFrom, read, String.ofList_toList]
  rfl

theorem isOneString_iff {name : String} (quotable : IsQuotable name) :
    IsOneString name ↔ name.toList.getLast? ≠ some '\\' := by
  constructor
  · intro one slash
    have stays : Sexpr.IsEscaped '"' (name.toList ++ ['"']) := by
      refine Sexpr.IsEscaped.append.mpr ⟨quotable.escaped, fun _ => ?_, trivial⟩
      rw [List.getLastD_eq_getLast?, slash, Option.getD_some]
    have closed := one.closed
    rw [Sexpr.toList_quoted, quotedChars, Sexpr.isUnclosed_open stays] at closed
    cases closed
  · intro last
    refine isOneString_of_lexeme ?_
    rw [Sexpr.toList_quoted]
    exact .quoted ⟨quotable.escaped, last⟩

end Names

section Tokens

variable {kind : String} {items : List Item}

/-- The text of a node is read as its own tokens exactly where none of its words is left open. -/
theorem tokenize_chars_iff :
    (tokenize (String.ofList (Item.node kind items).chars)).map Sexpr.Token.text =
        (Item.node kind items).flatten ↔ IsLexed (.node kind items) := by
  have shape : (Item.node kind items).flatten = "(" :: kind :: Item.flattenAll items ++ [")"] := rfl
  constructor
  · intro same word member
    have inside : word ∈ (Item.node kind items).flatten.dropLast := by
      rw [shape, List.dropLast_concat]
      exact List.mem_cons_of_mem _ (List.mem_cons.mpr ((List.mem_cons.mp member).imp_right
        (Item.mem_flattenAll_of_mem_wordsAll items)))
    rw [← same, ← List.map_dropLast] at inside
    obtain ⟨token, before, rfl⟩ := List.mem_map.mp inside
    exact Sexpr.lexeme_of_mem_dropLast before
  · intro lexed
    have read := Sexpr.tokensFrom_chars (.node kind items) 0 Sexpr.endsBare_nil
      fun text member => Sexpr.lexeme_of_mem_flatten _ lexed member
    rw [Sexpr.tokenize_eq_tokensFrom, String.toList_ofList]
    simpa using read

end Tokens

section Nodes

variable {stance : Stance} {rule : Rule} {kind : String} {items : List Item}

theorem placedLayer_own (name : String) :
    placedLayer false (unquote name) = .atom (quoted (ownName .layer name)) := by
  simp [placedLayer, ownName, seenLayer]

theorem placedEntry_own (name : String) :
    placedEntry false (.atom name) = .atom (quoted (ownName .layers name)) := by
  simp [placedEntry, ownName, seenLayer, Item.atom?]

/-- On its own face a node starts with its names, quoted. -/
theorem placedItems_names (own : stance.flip = false)
    (met : ∀ expectation ∈ rule.expected?, expectation.Met items) :
    ∃ rest, placedItems stance rule kind ((placed stance).items kind items) =
      (nameAtoms rule items).map (fun text => Item.atom (quoted (ownName rule text))) ++ rest := by
  cases rule with
  | pad =>
    obtain ⟨text, rest, rfl⟩ := met _ rfl
    exact ⟨_, placedItems_pad text rest⟩
  | layer =>
    obtain ⟨text, rest, rfl⟩ := met _ rfl
    refine ⟨keptItems stance kind rest, ?_⟩
    rw [placedItems_layer, own, placedLayer_own]
    rfl
  | layers =>
    obtain ⟨names, rfl⟩ := met _ rfl
    refine ⟨[], ?_⟩
    simp [placedItems_layers, own, placedEntry_own, nameAtoms, Item.atom?, Function.comp_def]
  | _ => exact ⟨_, rfl⟩

theorem isLexed_ownName (rule : Rule) {text : String} (lexed : IsLexed (.atom text))
    (spelt : IsSpelt (.atom text)) (last : text.toList.getLast? ≠ some '\\') :
    IsLexed (.atom (quoted (ownName rule text))) := by
  have atom := isSpelt_atom.mp spelt
  rw [isLexed_atom, Sexpr.toList_quoted]
  exact .quoted ⟨(isQuotable_ownName rule atom).escaped,
    (getLast?_ownName rule (isLexed_atom.mp lexed) atom.isWord).not.mpr last⟩

theorem lexeme_cooked {text : String} (lexeme : Lexeme text.toList) :
    Lexeme (cooked text).toList := by
  rw [cooked, String.toList_ofList]
  generalize text.toList = chars at lexeme
  cases lexeme with
  | opening => exact .opening
  | closing => exact .closing
  | bare bare =>
    rw [Script.lineFeeds_eq_self (Script.isBare_no_return bare)]
    exact .bare bare
  | quoted closable =>
    rw [Script.lineFeeds_quotedChars]
    exact .quoted ⟨Script.isEscaped_lineFeeds closable.1, (getLast?_lineFeeds _).not.mpr closable.2⟩

theorem isLexed_numberItem (value : Number.Double) : IsLexed (numberItem value) := by
  rw [numberItem, isLexed_atom, String.toList_ofList]
  exact .bare (Number.isBare_scriptStyle value)

theorem isLexed_placedAtX {flip : Bool} {x : String} (lexed : IsLexed (.atom x)) :
    IsLexed (placedAtX flip x) := by
  unfold placedAtX
  split
  · exact lexed
  · exact isLexed_numberItem _

theorem isLexed_mirrorWords (shown : Bool) : ∀ item ∈ mirrorWords shown, IsLexed item := by
  cases shown with
  | false => exact nofun
  | true => exact List.forall_mem_singleton.mpr (isLexed_atom.mpr (.bare (by decide)))

variable (own : stance.flip = false)
  (nets : ∀ pad, (stance.net pad).name.toList.getLast? ≠ some '\\')
  (lexed : ∀ item ∈ items, IsLexed item) (spelt : ∀ item ∈ items, IsSpelt item)
  (result : ∀ item ∈ items, isLeftOut (some kind) item = false →
    IsLexed ((placed stance).item (some kind) item))

include result in
theorem isLexed_keptItems : ∀ item ∈ keptItems stance kind items, IsLexed item := by
  intro item member
  obtain ⟨source, inside, shown, rfl⟩ := mem_keptItems.mp member
  exact result source inside shown

include own nets lexed spelt result in
/-- Placing a node on its own face leaves no word open if its names do not end in a backslash. -/
theorem isLexed_placedItems (met : ∀ expectation ∈ rule.expected?, expectation.Met items)
    (names : ∀ text ∈ nameAtoms rule items, text.toList.getLast? ≠ some '\\') :
    ∀ item ∈ placedItems stance rule kind ((placed stance).items kind items), IsLexed item := by
  cases rule with
  | pad =>
    obtain ⟨text, rest, rfl⟩ := met _ rfl
    obtain ⟨-, others⟩ := List.forall_mem_cons.mp result
    have name := isLexed_ownName .pad (lexed _ List.mem_cons_self) (spelt _ List.mem_cons_self)
      (names text List.mem_cons_self)
    rw [placedItems_pad]
    refine List.forall_mem_cons.mpr ⟨name, List.forall_mem_append.mpr
      ⟨isLexed_keptItems others, fun item member => ?_⟩⟩
    split at member
    · cases member
    · rw [List.mem_singleton.mp member]
      exact isLexed_netItem (nets _)
  | layer =>
    obtain ⟨text, rest, rfl⟩ := met _ rfl
    obtain ⟨-, others⟩ := List.forall_mem_cons.mp result
    rw [placedItems_layer, own, placedLayer_own]
    exact List.forall_mem_cons.mpr ⟨isLexed_ownName .layer (lexed _ List.mem_cons_self)
      (spelt _ List.mem_cons_self) (names text List.mem_cons_self), isLexed_keptItems others⟩
  | layers =>
    obtain ⟨texts, rfl⟩ := met _ rfl
    rw [placedItems_layers, own]
    intro item member
    obtain ⟨text, inside, rfl⟩ := List.mem_map.mp member
    have isItem : Item.atom text ∈ texts.map Item.atom := List.mem_map_of_mem inside
    rw [placedEntry_own]
    exact isLexed_ownName .layers (lexed _ isItem) (spelt _ isItem)
      (names text (List.mem_filterMap.mpr ⟨_, isItem, rfl⟩))
  | xy =>
    obtain ⟨x, y, rfl, -, -⟩ := met _ rfl
    rw [placedItems_xy]
    exact List.forall_mem_cons.mpr ⟨isLexed_numberItem _,
      List.forall_mem_singleton.mpr (lexed _ (by simp))⟩
  | «at» =>
    obtain ⟨x, y, delta, flags, rfl, placement⟩ := met _ rfl
    rw [placementItems, Rewriting.items, Rewriting.items, placedItems, takeDelta_items placement]
    refine List.forall_mem_cons.mpr ⟨isLexed_placedAtX (lexed _ (by simp [placementItems])),
      List.forall_mem_cons.mpr ⟨lexed (.atom y) (by simp [placementItems]),
        List.forall_mem_cons.mpr ⟨isLexed_numberItem _, fun item member => ?_⟩⟩⟩
    rw [results, Rewriting.items_eq_map, List.map_map, List.map_map] at member
    obtain ⟨flag, inside, rfl⟩ := List.mem_map.mp member
    exact isLexed_atom.mpr (lexeme_cooked (isLexed_atom.mp
      (lexed (.atom flag) (by simp [placementItems, inside]))))
  | effects =>
    rw [placedItems_effects, own]
    refine List.forall_mem_append.mpr ⟨isLexed_keptItems result, fun item member => ?_⟩
    split at member
    · cases member
    · rw [List.mem_singleton.mp member]
      exact isLexed_node.mpr ⟨.bare (by decide), isLexed_mirrorWords false⟩
  | justify =>
    rw [placedItems_justify]
    exact List.forall_mem_append.mpr ⟨isLexed_keptItems fun item member =>
      result item (List.mem_filter.mp member).1, isLexed_mirrorWords _⟩
  | modelOffset | property | fallback =>
    rw [placedItems_generic (by decide)]
    exact isLexed_keptItems result
  | padNet | skip => exact isLexed_keptItems result

end Nodes

section Trees

variable {stance : Stance}

/-- The nodes that are visited can be written, and their names do not end in a backslash. -/
def AllClosable (visits : List Visit) : Prop :=
  ∀ visit ∈ visits, visit.misshapen? = none ∧
    ∀ text ∈ nameAtoms visit.rule visit.node.items, text.toList.getLast? ≠ some '\\'

mutual
theorem isLexed_placed (own : stance.flip = false)
    (nets : ∀ pad, (stance.net pad).name.toList.getLast? ≠ some '\\') (parent : Option String)
    (item : Item) (lexed : IsLexed item) (spelt : IsSpelt item)
    (closable : AllClosable (visits parent item))
    (shown : isLeftOut parent item = false) : IsLexed ((placed stance).item parent item) := by
  match item with
  | .atom text =>
    rw [Rewriting.item, isLexed_atom]
    exact lexeme_cooked (isLexed_atom.mp lexed)
  | .node kind items =>
    obtain ⟨word, lexedItems⟩ := isLexed_node.mp lexed
    obtain ⟨-, speltItems⟩ := isSpelt_node.mp spelt
    have entered : isWithheld parent kind = false := (isWithheld_eq parent kind).trans shown
    rw [visits, if_neg (by simp [entered])] at closable
    obtain ⟨⟨sound, names⟩, inner⟩ := List.forall_mem_cons.mp closable
    rw [Rewriting.item, isLexed_node]
    exact ⟨lexeme_cooked word, isLexed_placedItems own nets lexedItems speltItems
      (isLexed_placedAll own nets kind items lexedItems speltItems inner)
      (Visit.misshapen?_eq_none.mp sound) names⟩

theorem isLexed_placedAll (own : stance.flip = false)
    (nets : ∀ pad, (stance.net pad).name.toList.getLast? ≠ some '\\') (kind : String)
    (items : List Item) (lexed : ∀ item ∈ items, IsLexed item)
    (spelt : ∀ item ∈ items, IsSpelt item) (closable : AllClosable (visitsAll kind items)) :
    ∀ item ∈ items, isLeftOut (some kind) item = false →
      IsLexed ((placed stance).item (some kind) item) := by
  match items with
  | [] => exact nofun
  | item :: rest =>
    obtain ⟨lexedFirst, lexedRest⟩ := List.forall_mem_cons.mp lexed
    obtain ⟨speltFirst, speltRest⟩ := List.forall_mem_cons.mp spelt
    rw [visitsAll] at closable
    obtain ⟨first, others⟩ := List.forall_mem_append.mp closable
    exact List.forall_mem_cons.mpr
      ⟨isLexed_placed own nets (some kind) item lexedFirst speltFirst first,
        isLexed_placedAll own nets kind rest lexedRest speltRest others⟩
end

end Trees

section Visits

/-- A visited node, what is visited in it and its words, among those of a tree. -/
structure Visit.IsWithin (visit : Visit) (visited : List Visit) (words : List String) : Prop where
  shown : isLeftOut visit.parent visit.node.item = false
  visits : visits visit.parent visit.node.item ⊆ visited
  words : visit.node.item.words ⊆ words

theorem Visit.IsWithin.mono {visit : Visit} {visited more : List Visit}
    {words others : List String} (within : visit.IsWithin visited words) (visits : visited ⊆ more)
    (subset : words ⊆ others) : visit.IsWithin more others :=
  ⟨within.shown, List.Subset.trans within.visits visits, List.Subset.trans within.words subset⟩

mutual
theorem isWithin_visits {visit : Visit} (parent : Option String) (item : Item)
    (member : visit ∈ visits parent item) : visit.IsWithin (visits parent item) item.words := by
  match item with
  | .atom text => cases member
  | .node kind items =>
    cases withheld : isWithheld parent kind with
    | true =>
      rw [visits, if_pos withheld] at member
      cases member
    | false =>
      rw [visits, if_neg (by simp [withheld])] at member ⊢
      rcases List.mem_cons.mp member with rfl | inside
      · refine ⟨(isWithheld_eq parent kind).symm.trans withheld, ?_, List.Subset.refl _⟩
        rw [Node.item, visits, if_neg (by simp [withheld])]
        exact List.Subset.refl _
      · exact (isWithin_visitsAll kind items inside).mono (List.subset_cons_self _ _)
          (List.subset_cons_self _ _)

theorem isWithin_visitsAll {visit : Visit} (kind : String) (items : List Item)
    (member : visit ∈ visitsAll kind items) :
    visit.IsWithin (visitsAll kind items) (Item.wordsAll items) := by
  match items with
  | [] => cases member
  | item :: rest =>
    rw [visitsAll] at member ⊢
    rw [Item.wordsAll]
    rcases List.mem_append.mp member with inside | inside
    · exact (isWithin_visits (some kind) item inside).mono (List.subset_append_left _ _)
        (List.subset_append_left _ _)
    · exact (isWithin_visitsAll kind rest inside).mono (List.subset_append_right _ _)
        (List.subset_append_right _ _)
end

/-- A visited node can be written where nothing that is visited in it is misshapen. -/
theorem exists_written {parent : Option String} {item : Item}
    (sound : ∀ visit ∈ visits parent item, visit.misshapen? = none) :
    ∃ fragments, (writeItem parent item).outcome = .ok fragments := by
  have none := (stops_item parent item).trans (List.findSome?_eq_none_iff.mpr sound)
  unfold Draft.failure? at none
  split at none
  · cases none
  · exact ⟨_, ‹_›⟩

end Visits

end FootprintTemplate.Writer
