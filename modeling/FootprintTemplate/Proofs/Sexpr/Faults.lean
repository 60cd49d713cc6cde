import FootprintTemplate.Proofs.Sexpr.Splitting
import FootprintTemplate.Proofs.Sexpr.Stage

/-! Errors of reading. An error points at the first token that no document can have there, and its
kind follows from the tokens up to that one. -/
namespace FootprintTemplate.Sexpr

/-- Some document begins with these tokens. -/
def Begins (texts : List String) : Prop :=
  ∃ text node, parse text = .ok node ∧ texts <+: (tokenize text).map Token.text

/-- These are all tokens of some document. -/
def IsDocument (texts : List String) : Prop :=
  ∃ text node, parse text = .ok node ∧ (tokenize text).map Token.text = texts

theorem Begins.front {front back : List String} (begins : Begins (front ++ back)) :
    Begins front := by
  obtain ⟨text, node, read, inside⟩ := begins
  exact ⟨text, node, read, (List.prefix_append front back).trans inside⟩

theorem IsDocument.begins {texts : List String} (document : IsDocument texts) : Begins texts := by
  obtain ⟨text, node, read, rfl⟩ := document
  exact ⟨text, node, read, List.prefix_rfl⟩

theorem isDocument_of_readable {node : Node} (readable : node.Readable) :
    IsDocument node.flatten :=
  ⟨node.text, node, readable.parse_text, (parse_eq_ok.mp readable.parse_text).texts⟩

theorem IsDocument.exists_node {texts : List String} (document : IsDocument texts) :
    ∃ node : Node, node.Readable ∧ texts = node.flatten := by
  obtain ⟨text, node, read, rfl⟩ := document
  exact ⟨node, readable_of_parse read, (parse_eq_ok.mp read).texts⟩

section Completion

theorem exists_finished {frame : Frame} {below : List Frame} (fit : OpenFit (frame :: below))
    (few : below.length < maxDepth) :
    ∃ node : Node, openTexts (frame :: below) ++ List.replicate (below.length + 1) ")" =
        node.flatten ∧ (∀ word ∈ node.item.words, IsWord word) ∧ node.depth ≤ maxDepth := by
  induction below generalizing frame with
  | nil =>
    have depth := fit.depth_node few
    refine ⟨frame.node, (flatten_node frame).symm, fit.words_node, ?_⟩
    simpa using depth
  | cons parent below ih =>
    have depth := fit.depth_node few
    simp only [List.length_cons] at depth few
    obtain ⟨node, texts, words, within⟩ :=
      ih (fit.2.2.2.push fit.words_node depth) (Nat.lt_of_succ_lt few)
    refine ⟨node, ?_, words, within⟩
    have closed : frame.node.item.flatten = openTexts [frame] ++ [")"] := flatten_node frame
    rw [← texts, openTexts_push, closed, openTexts_cons frame (parent :: below),
      List.length_cons, List.replicate_succ, List.append_assoc, List.append_assoc,
      List.append_assoc, List.singleton_append]

theorem begins_openTexts {frame : Frame} {below : List Frame} (fit : OpenFit (frame :: below))
    (few : below.length < maxDepth)
    (lexemes : ∀ text ∈ openTexts (frame :: below), Lexeme text.toList) :
    Begins (openTexts (frame :: below)) := by
  obtain ⟨node, texts, words, depth⟩ := exists_finished fit few
  have readable : node.Readable := by
    refine ⟨fun text member => ?_, words, depth⟩
    rw [← texts] at member
    rcases List.mem_append.mp member with inside | closing
    · exact lexemes text inside
    · rw [List.eq_of_mem_replicate closing]
      exact .closing
  have document := isDocument_of_readable readable
  rw [← texts] at document
  exact document.begins.front

theorem Stage.Fit.begins {stage : Stage} (fit : stage.Fit)
    (lexemes : ∀ text ∈ stage.texts, Lexeme text.toList) : Begins stage.texts := by
  -- A node that has been opened gets a kind, so that only open nodes are left to finish.
  have named : ∀ outer : List Frame, OpenFit outer → outer.length < maxDepth →
      (∀ text ∈ openTexts outer ++ ["("], Lexeme text.toList) → Begins (openTexts outer ++ ["("]) := by
    intro outer fits few lexemes
    have word : IsWord "a" := by decide
    have shape : openTexts (⟨"a", []⟩ :: outer) = openTexts outer ++ ["("] ++ ["a"] := by
      simp [openTexts, Item.flattenAll]
    have begins : Begins (openTexts (⟨"a", []⟩ :: outer)) := by
      refine begins_openTexts ⟨word, by simp, by simp, fits⟩ few fun text member => ?_
      rw [shape] at member
      rcases List.mem_append.mp member with inside | kind
      · exact lexemes text inside
      · rw [List.mem_singleton.mp kind]
        exact .bare (by decide)
    rw [shape] at begins
    exact begins.front
  cases stage with
  | start =>
    have opened : Begins ([] ++ ["("]) :=
      named [] trivial (by decide) fun text member => List.mem_singleton.mp member ▸ .opening
    exact opened.front
  | kind outer => exact named outer fit.1 fit.2 lexemes
  | items outer top => exact begins_openTexts fit.1 fit.2 lexemes
  | done node => exact (isDocument_of_readable ⟨lexemes, fit.1, fit.2⟩).begins

end Completion

section Resuming

/-- Tokens that open a node in these nodes are read up to its kind. -/
def ReachesKind (outer : List Frame) : Prop :=
  ∀ own : List Token, own.map Token.text = openTexts outer ++ ["("] →
    (∀ token ∈ own, token.isUnterminated = false) → ∀ token rest,
    readNode (own ++ token :: rest) =
      match kindAt own.length token with
      | .error error => .error error
      | .ok kind => readItems outer ⟨kind, []⟩ (own.length + 1) rest

/-- Tokens of these open nodes are read up to the next item of the innermost one. -/
def ReachesItems (outer : List Frame) (top : Frame) : Prop :=
  ∀ own : List Token, own.map Token.text = openTexts (top :: outer) →
    (∀ token ∈ own, token.isUnterminated = false) → ∀ rest,
    readNode (own ++ rest) = readItems outer top own.length rest

theorem reachesKind_nil : ReachesKind [] := by
  intro own texts _ token rest
  obtain ⟨opening, rfl, text⟩ := List.map_eq_singleton_iff.mp texts
  have isOpen := isOpen_eq_true.mpr text
  simp only [List.cons_append, List.nil_append, readNode, isOpen, Bool.not_true,
    List.length_singleton]
  rfl

theorem ReachesItems.kind {parent : Frame} {below : List Frame} (reaches : ReachesItems below parent)
    (few : below.length + 1 < maxDepth) : ReachesKind (parent :: below) := by
  intro own texts terminated token rest
  obtain ⟨before, last, rfl, earlier, opens⟩ := List.map_eq_append_iff.mp texts
  obtain ⟨opening, rfl, text⟩ := List.map_eq_singleton_iff.mp opens
  have isOpen := isOpen_eq_true.mpr text
  have close : opening.isClose = false := beq_false_of_ne (by rw [text]; decide)
  have shape : before ++ [opening] ++ token :: rest = before ++ opening :: token :: rest := by
    simp
  rw [shape, reaches before earlier fun token member => terminated token (by simp [member]),
    readItems.eq_def]
  simp only [close, isOpen, if_true, if_neg (Nat.not_le.mpr few), List.length_append,
    List.length_singleton]
  rfl

theorem ReachesKind.items {outer : List Frame} (reaches : ReachesKind outer) {top : Frame}
    (fit : OpenFit (top :: outer)) (few : outer.length < maxDepth) : ReachesItems outer top := by
  intro own texts terminated rest
  have shape : openTexts (top :: outer) =
      openTexts outer ++ ["("] ++ top.kind :: Item.flattenAll top.items.reverse := by
    simp [openTexts]
  rw [shape] at texts
  obtain ⟨before, after, rfl, opened, others⟩ := List.map_eq_append_iff.mp texts
  obtain ⟨kind, inner, rfl, named, items⟩ := List.map_eq_cons_iff.mp others
  have isKind : kindAt before.length kind = .ok top.kind :=
    kindAt_eq_ok.mpr ⟨fit.1, terminated kind (by simp), named⟩
  have depth := fit.depth_items
  have passed := readItems_flattenAll top.items.reverse outer ⟨top.kind, []⟩ (before.length + 1)
    rest items (fun token member => terminated token (by simp [member]))
    fit.words_items (by omega)
  rw [List.append_assoc, List.cons_append,
    reaches before opened fun token member => terminated token (by simp [member]), isKind]
  simp only [passed, List.reverse_reverse, List.append_nil, List.length_append, List.length_cons]
  rw [Nat.add_assoc, Nat.add_comm 1]

theorem reachesKind {outer : List Frame} (fit : OpenFit outer) (few : outer.length < maxDepth) :
    ReachesKind outer := by
  induction outer with
  | nil => exact reachesKind_nil
  | cons parent below ih =>
    rw [List.length_cons] at few
    exact ((ih fit.2.2.2 (Nat.lt_of_succ_lt few)).items fit (Nat.lt_of_succ_lt few)).kind few

theorem reachesItems {outer : List Frame} {top : Frame} (fit : OpenFit (top :: outer))
    (few : outer.length < maxDepth) : ReachesItems outer top :=
  (reachesKind fit.2.2.2 few).items fit few

theorem fault?_congr {token other : Token} (same : token.text = other.text) (stage : Stage)
    (index index' : Nat) :
    stage.fault? index token = none ↔ stage.fault? index' other = none := by
  cases stage <;>
    grind [Stage.fault?, Token.isOpen, Token.isClose, Token.isUnterminated]

/-- At a stage that comes before the end of a node, reading stops at a token that does not fit. -/
theorem readNode_stops {stage : Stage} (fit : stage.Fit) (within : ∀ node, stage ≠ .done node)
    {own : List Token} (texts : own.map Token.text = stage.texts)
    (terminated : ∀ token ∈ own, token.isUnterminated = false) {token : Token} {error : ParseError}
    (fault : stage.fault? own.length token = some error) (rest : List Token) :
    readNode (own ++ token :: rest) = .error error := by
  cases stage with
  | start =>
    obtain rfl := List.map_eq_nil_iff.mp texts
    simp only [Stage.fault?] at fault
    split at fault
    · cases fault
    · rename_i closed
      cases fault
      simp [readNode, closed]
  | kind outer =>
    rw [reachesKind fit.1 fit.2 own texts terminated, kindAt_eq_error.mpr fault]
  | items outer top =>
    rw [reachesItems fit.1 fit.2 own texts terminated, readItems.eq_def]
    simp only [Stage.fault?] at fault
    split at fault
    · cases fault
    · split at fault
      · split at fault
        · simp_all
        · cases fault
      · split at fault
        · simp_all [atomAt]
        · cases fault
  | done node => exact absurd rfl (within node)

/-- No document goes on from a stage with a token that the stage does not take. -/
theorem not_begins {stage : Stage} (fit : stage.Fit) {index : Nat} {token : Token}
    {error : ParseError} (fault : stage.fault? index token = some error) :
    ¬ Begins (stage.texts ++ [token.text]) := by
  rintro ⟨text, node, read, more, shape⟩
  have document := parse_eq_ok.mp read
  obtain ⟨front, rest, tokens, before, -⟩ := List.map_eq_append_iff.mp shape.symm
  obtain ⟨own, last, rfl, texts, ends⟩ := List.map_eq_append_iff.mp before
  obtain ⟨other, rfl, same⟩ := List.map_eq_singleton_iff.mp ends
  have split : tokenize text = own ++ other :: rest := by simpa using tokens
  rw [split] at document
  have terminated : ∀ token ∈ own, token.isUnterminated = false :=
    fun token member => document.terminated token (List.mem_append_left _ member)
  have whole : readNode (own ++ other :: rest) = .ok ⟨node, _, []⟩ :=
    readNode_eq_ok.mpr ⟨_, (List.append_nil _).symm, rfl, document⟩
  have refused : ∃ error, stage.fault? own.length other = some error := by
    refine Option.ne_none_iff_exists'.mp fun none => ?_
    rw [(fault?_congr same stage _ index).mp none] at fault
    cases fault
  obtain ⟨error, refused⟩ := refused
  by_cases within : ∀ node, stage ≠ .done node
  · cases whole.symm.trans (readNode_stops fit within texts terminated refused rest)
  · obtain ⟨finished, rfl⟩ := not_forall_not.mp within
    have early : Document own finished := ⟨texts, terminated, fit.1, fit.2⟩
    obtain ⟨-, none⟩ := Document.unique rfl early (List.append_nil _).symm document
    simp at none

end Resuming

section Marks

/-- Nodes that are open after these tokens. -/
def openCount (texts : List String) : Nat :=
  texts.count "(" - texts.count ")"

mutual
theorem count_flatten (item : Item) (words : ∀ word ∈ item.words, IsWord word) :
    item.flatten.count "(" = item.flatten.count ")" := by
  match item with
  | .atom text =>
    obtain ⟨notOpen, notClose⟩ := words text List.mem_cons_self
    simp [Item.flatten, notOpen, notClose]
  | .node kind items =>
    rw [Item.words] at words
    obtain ⟨⟨notOpen, notClose⟩, rest⟩ := List.forall_mem_cons.mp words
    have inside := count_flattenAll items rest
    simp [Item.flatten, List.count_append, notOpen, notClose, inside]

theorem count_flattenAll (items : List Item) (words : ∀ word ∈ Item.wordsAll items, IsWord word) :
    (Item.flattenAll items).count "(" = (Item.flattenAll items).count ")" := by
  match items with
  | [] => rfl
  | item :: rest =>
    rw [Item.wordsAll] at words
    obtain ⟨own, others⟩ := List.forall_mem_append.mp words
    rw [Item.flattenAll, List.count_append, List.count_append, count_flatten item own,
      count_flattenAll rest others]
end

theorem count_openTexts {frames : List Frame} (fit : OpenFit frames) :
    (openTexts frames).count "(" = (openTexts frames).count ")" + frames.length := by
  induction frames with
  | nil => rfl
  | cons frame below ih =>
    have inside := count_flattenAll frame.items.reverse fit.words_items
    obtain ⟨⟨notOpen, notClose⟩, -, -, fits⟩ := fit
    simp [openTexts, List.count_append, notOpen, notClose, inside, ih fits]
    omega

theorem Stage.Fit.count {stage : Stage} (fit : stage.Fit) :
    openCount stage.texts = stage.depth := by
  unfold openCount
  cases stage with
  | start => rfl
  | kind outer =>
    have outside := count_openTexts fit.1
    simp [Stage.texts, Stage.depth, List.count_append, outside]
    omega
  | items outer top => simp [Stage.texts, Stage.depth, count_openTexts fit.1]
  | done node => simp [Stage.texts, Stage.depth, Node.flatten, count_flatten node.item fit.1]

theorem getLast?_flatten {item : Item} (words : ∀ word ∈ item.words, IsWord word) :
    ∃ before last, item.flatten = before ++ [last] ∧ last ≠ "(" := by
  cases item with
  | atom text => exact ⟨[], text, rfl, (words text List.mem_cons_self).1⟩
  | node kind items =>
    exact ⟨"(" :: kind :: Item.flattenAll items, ")", by simp [Item.flatten], by decide⟩

theorem getLast?_openTexts {frame : Frame} {below : List Frame} (fit : OpenFit (frame :: below)) :
    (openTexts (frame :: below)).getLast? ≠ some "(" := by
  obtain ⟨⟨notOpen, -⟩, words, -, -⟩ := fit
  obtain ⟨kind, items⟩ := frame
  cases items with
  | nil => simpa [openTexts, Item.flattenAll] using notOpen
  | cons item older =>
    obtain ⟨before, last, shape, other⟩ := getLast?_flatten (words item List.mem_cons_self)
    have pushed := openTexts_push ⟨kind, older⟩ item below
    rw [shape, ← List.append_assoc] at pushed
    rw [Frame.push] at pushed
    simpa [pushed] using other

theorem Stage.Fit.getLast? {stage : Stage} (fit : stage.Fit) :
    stage.texts.getLast? = some "(" ↔ ∃ outer, stage = .kind outer := by
  cases stage with
  | start => simp [Stage.texts]
  | kind outer => simp [Stage.texts]
  | items outer top => simpa [Stage.texts] using getLast?_openTexts fit.1
  | done node =>
    obtain ⟨before, last, shape, other⟩ := getLast?_flatten fit.1
    simpa [Stage.texts, Node.flatten, shape] using other

theorem Stage.Fit.isDocument {stage : Stage} (fit : stage.Fit)
    (lexemes : ∀ text ∈ stage.texts, Lexeme text.toList) :
    IsDocument stage.texts ↔ ∃ node, stage = .done node := by
  constructor
  · intro document
    obtain ⟨node, readable, same⟩ := document.exists_node
    have closed : openCount stage.texts = 0 := by
      rw [same, openCount, Node.flatten, count_flatten node.item readable.words, Nat.sub_self]
    rw [fit.count] at closed
    cases stage with
    | start => cases same
    | kind => cases closed
    | items => cases closed
    | done node => exact ⟨node, rfl⟩
  · rintro ⟨node, rfl⟩
    exact isDocument_of_readable ⟨lexemes, fit.1, fit.2⟩

end Marks

/-- The token that the error points at. -/
def ParseError.index : ParseError → Nat
  | .expectedOpen index .. | .missingType index _ | .unexpectedEnd index
  | .unterminatedString index _ | .trailingTokens index _ | .tooDeep index _ => index

/-- The kind of an error at this token, as the tokens before it tell. -/
structure IsFault (before : List String) (token : Token) (error : ParseError) : Prop where
  known : error ∈ [.expectedOpen before.length token.offset token.text,
    .missingType before.length token.offset, .unterminatedString before.length token.offset,
    .tooDeep before.length token.offset, .trailingTokens before.length token.offset]
  expectedOpen : error = .expectedOpen before.length token.offset token.text ↔
    before = [] ∧ token.text ≠ "("
  missingType : error = .missingType before.length token.offset ↔
    (token.text = "(" ∨ token.text = ")") ∧ before.getLast? = some "("
  unterminatedString : error = .unterminatedString before.length token.offset ↔
    token.isUnterminated = true ∧ 0 < openCount before
  tooDeep : error = .tooDeep before.length token.offset ↔
    token.text = "(" ∧ before.getLast? ≠ some "(" ∧ openCount before = maxDepth
  trailingTokens : error = .trailingTokens before.length token.offset ↔ IsDocument before

theorem Stage.index_of_fault? {stage : Stage} {index : Nat} {token : Token} {error : ParseError}
    (fault : stage.fault? index token = some error) : error.index = index := by
  cases stage <;> grind [Stage.fault?, ParseError.index]

theorem Stage.Fit.isFault {stage : Stage} (fit : stage.Fit)
    (lexemes : ∀ text ∈ stage.texts, Lexeme text.toList) {token : Token} {error : ParseError}
    (fault : stage.fault? stage.texts.length token = some error) :
    IsFault stage.texts token error := by
  -- What the tokens before it tell of the stage decides every kind of error.
  have count := fit.count
  have last := fit.getLast?
  have document := fit.isDocument lexemes
  have openClosed : token.text = "(" → token.isUnterminated = false := terminated_open
  have closeClosed : token.text = ")" → token.isUnterminated = false := terminated_close
  cases stage with
  | start =>
    have empty : Stage.start.texts = [] := rfl
    simp only [Stage.fault?] at fault
    split at fault <;> cases fault
    rename_i closed
    rw [isOpen_eq_true] at closed
    constructor <;> simp_all [Stage.depth, maxDepth]
  | kind outer =>
    have nonempty : (Stage.kind outer).texts ≠ [] := by simp [Stage.texts]
    simp only [Stage.fault?, Bool.or_eq_true, isOpen_eq_true, isClose_eq_true] at fault
    split at fault
    · rename_i parenthesis
      have terminated : token.isUnterminated = false := parenthesis.elim openClosed closeClosed
      cases fault
      constructor <;> simp_all [Stage.depth]
    · split at fault <;> cases fault
      constructor <;> simp_all [Stage.depth]
  | items outer top =>
    have nonempty : (Stage.items outer top).texts ≠ [] := by simp [Stage.texts, openTexts]
    simp only [Stage.fault?, isOpen_eq_true, isClose_eq_true] at fault
    split at fault
    · cases fault
    · split at fault
      · split at fault <;> cases fault
        rename_i deep
        have full : outer.length + 1 = maxDepth := Nat.le_antisymm fit.2 deep
        constructor <;> simp_all [Stage.depth]
      · split at fault <;> cases fault
        constructor <;> simp_all [Stage.depth]
  | done node =>
    have nonempty : (Stage.done node).texts ≠ [] := by
      simp [Stage.texts, Node.flatten, Node.item, Item.flatten]
    cases fault
    constructor <;> simp_all [Stage.depth, maxDepth]

/-- An error points at the end of a text that a document can go on from, or at the first token that
no document has after the tokens before it, with the byte at which this token stands. These tokens
tell the kind of the error. -/
theorem parse_error_at {text : String} {error : ParseError} (fails : parse text = .error error) :
    Begins (((tokenize text).take error.index).map Token.text) ∧
      (error = .unexpectedEnd (tokenize text).length ∨
        ∃ token, (tokenize text)[error.index]? = some token ∧ token.StandsIn text ∧
          ¬ Begins (((tokenize text).take (error.index + 1)).map Token.text) ∧
          IsFault (((tokenize text).take error.index).map Token.text) token error) := by
  obtain ⟨stage, own, rest, split, terminated, fit, texts, stops⟩ := parse_halts fails
  rw [List.nil_append] at texts
  rw [Nat.zero_add] at stops
  have lexemes : ∀ word ∈ stage.texts, Lexeme word.toList := by
    rw [← texts]
    intro word member
    obtain ⟨token, inside, rfl⟩ := List.mem_map.mp member
    have found : token ∈ tokenize text := split ▸ List.mem_append_left _ inside
    exact lexeme_of_mem_tokenize found (terminated token inside)
  have begins : Begins stage.texts := fit.begins lexemes
  cases rest with
  | nil =>
    obtain ⟨-, rfl⟩ := stops
    rw [split, List.append_nil]
    refine ⟨?_, .inl rfl⟩
    rwa [ParseError.index, List.take_length, texts]
  | cons token rest =>
    have index : error.index = own.length := Stage.index_of_fault? stops
    have before : (tokenize text).take own.length = own := by rw [split, List.take_left]
    have upTo : (tokenize text).take (own.length + 1) = own ++ [token] := by
      rw [split, List.take_length_add_append, List.take_succ_cons, List.take_zero]
    have count : own.length = stage.texts.length := by rw [← texts, List.length_map]
    rw [index, before, upTo, texts, List.map_append, texts]
    refine ⟨begins, .inr ⟨token, ?_, ?_, not_begins fit stops, ?_⟩⟩
    · rw [split, List.getElem?_append_right le_rfl, Nat.sub_self, List.getElem?_cons_zero]
    · exact standsIn_of_mem_tokenize (by rw [split]; simp)
    · rw [count] at stops
      exact fit.isFault lexemes stops

/-- A node without a kind, after a string that holds a parenthesis. -/
theorem parse_error_at_missingType :
    parse "(a \"(é\" ())" = .error (.missingType 4 10) ∧
      Begins ["(", "a", "\"(é\"", "("] ∧ ¬ Begins ["(", "a", "\"(é\"", "(", ")"] := by
  have tokens : tokenize "(a \"(é\" ())" =
      [⟨"(", 0⟩, ⟨"a", 1⟩, ⟨"\"(é\"", 3⟩, ⟨"(", 9⟩, ⟨")", 10⟩, ⟨")", 11⟩] := by
    decide
  have fails : parse "(a \"(é\" ())" = .error (.missingType 4 10) := by
    rw [parse, tokens]
    cbv
  obtain ⟨begins, ended | ⟨token, -, -, ends, -⟩⟩ := parse_error_at fails
  · cases ended
  · rw [tokens] at begins ends
    exact ⟨fails, begins, ends⟩

end FootprintTemplate.Sexpr
