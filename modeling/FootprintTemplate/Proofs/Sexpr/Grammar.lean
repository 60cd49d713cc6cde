import FootprintTemplate.Sexpr.Parse

/-! The grammar of documents. A node is read from tokens exactly when they are its own tokens in
source order; words are what stands between its parentheses. -/
namespace FootprintTemplate.Sexpr

namespace Item

mutual
/-- Kinds and atoms in source order. -/
def words : Item → List String
  | .atom text => [text]
  | .node kind items => kind :: wordsAll items

def wordsAll : List Item → List String
  | [] => []
  | item :: rest => words item ++ wordsAll rest
end

theorem flattenAll_eq_flatMap (items : List Item) : flattenAll items = items.flatMap flatten := by
  induction items with
  | nil => rfl
  | cons item rest ih => rw [flattenAll, ih, List.flatMap_cons]

theorem wordsAll_eq_flatMap (items : List Item) : wordsAll items = items.flatMap words := by
  induction items with
  | nil => rfl
  | cons item rest ih => rw [wordsAll, ih, List.flatMap_cons]

theorem forall_words_node {kind : String} {items : List Item} (property : String → Prop) :
    (∀ word ∈ (node kind items).words, property word) ↔
      property kind ∧ ∀ item ∈ items, ∀ word ∈ item.words, property word := by
  simp only [words, wordsAll_eq_flatMap, List.forall_mem_cons, List.mem_flatMap]
  constructor
  · exact fun ⟨own, rest⟩ => ⟨own, fun item member word inside => rest word ⟨item, member, inside⟩⟩
  · exact fun ⟨own, rest⟩ => ⟨own, fun word ⟨item, member, inside⟩ => rest item member word inside⟩

theorem depthAll_le {items : List Item} {limit : Nat} :
    depthAll items ≤ limit ↔ ∀ item ∈ items, item.depth ≤ limit := by
  induction items with
  | nil => simp [depthAll]
  | cons item rest ih => rw [depthAll, Nat.max_le, ih, List.forall_mem_cons]

theorem flattenAll_append (first second : List Item) :
    flattenAll (first ++ second) = flattenAll first ++ flattenAll second := by
  simp only [flattenAll_eq_flatMap, List.flatMap_append]

theorem charsAll_append (first second : List Item) :
    charsAll (first ++ second) = charsAll first ++ charsAll second := by
  induction first with
  | nil => rfl
  | cons item rest ih => simp [charsAll, ih]

mutual
theorem mem_flatten_of_mem_words {word : String} (item : Item) (member : word ∈ item.words) :
    word ∈ item.flatten := by
  match item with
  | .atom text => exact member
  | .node kind items =>
    rw [words, List.mem_cons] at member
    rw [flatten, List.mem_cons, List.mem_cons, List.mem_append]
    exact .inr (member.imp id fun inner => .inl (mem_flattenAll_of_mem_wordsAll items inner))

theorem mem_flattenAll_of_mem_wordsAll {word : String} (items : List Item)
    (member : word ∈ wordsAll items) : word ∈ flattenAll items := by
  match items with
  | [] => exact member
  | item :: rest =>
    rw [wordsAll, List.mem_append] at member
    rw [flattenAll, List.mem_append]
    exact member.imp (mem_flatten_of_mem_words item) (mem_flattenAll_of_mem_wordsAll rest)
end

end Item

/-- No parenthesis, so that it can stand for a kind or an atom. -/
def IsWord (text : String) : Prop :=
  text ≠ "(" ∧ text ≠ ")"

instance (text : String) : Decidable (IsWord text) :=
  inferInstanceAs (Decidable (_ ∧ _))

/-- The tokens are those of the node, and the node is one that can be written. -/
structure Document (tokens : List Token) (node : Node) : Prop where
  texts : tokens.map Token.text = node.flatten
  terminated : ∀ token ∈ tokens, token.isUnterminated = false
  words : ∀ word ∈ node.item.words, IsWord word
  depth : node.depth ≤ maxDepth

theorem isOpen_eq_true {token : Token} : token.isOpen = true ↔ token.text = "(" := beq_iff_eq

theorem isClose_eq_true {token : Token} : token.isClose = true ↔ token.text = ")" := beq_iff_eq

theorem terminated_open {token : Token} (opens : token.text = "(") :
    token.isUnterminated = false := by
  rw [Token.isUnterminated, opens]
  decide

theorem terminated_close {token : Token} (close : token.text = ")") :
    token.isUnterminated = false := by
  rw [Token.isUnterminated, close]
  decide

theorem isOpen_word {token : Token} (word : IsWord token.text) : token.isOpen = false :=
  beq_false_of_ne word.1

theorem isClose_word {token : Token} (word : IsWord token.text) : token.isClose = false :=
  beq_false_of_ne word.2

theorem atomAt_eq_ok {index : Nat} {token : Token} {text : String} :
    atomAt index token = .ok text ↔ token.isUnterminated = false ∧ token.text = text := by
  unfold atomAt
  cases token.isUnterminated <;> simp

theorem kindAt_eq_ok {index : Nat} {token : Token} {text : String} :
    kindAt index token = .ok text ↔
      IsWord text ∧ token.isUnterminated = false ∧ token.text = text := by
  unfold kindAt
  split
  · rename_i paren
    simp only [Bool.or_eq_true, isOpen_eq_true, isClose_eq_true] at paren
    constructor
    · intro impossible; cases impossible
    · rintro ⟨word, -, rfl⟩
      exact absurd paren (not_or.mpr word)
  · rename_i word
    simp only [Bool.or_eq_true, isOpen_eq_true, isClose_eq_true, not_or] at word
    rw [atomAt_eq_ok]
    constructor
    · rintro ⟨terminated, rfl⟩; exact ⟨word, terminated, rfl⟩
    · exact fun h => h.2

theorem map_text_node {kind : String} {items : List Item} {own : List Token}
    (texts : own.map Token.text = (Item.node kind items).flatten) :
    ∃ opening name inner closing, own = opening :: name :: (inner ++ [closing]) ∧
      opening.text = "(" ∧ name.text = kind ∧
      inner.map Token.text = Item.flattenAll items ∧ closing.text = ")" := by
  obtain ⟨opening, after, rfl, opens, afterTexts⟩ := List.map_eq_cons_iff.mp texts
  obtain ⟨name, within, rfl, isKind, withinTexts⟩ := List.map_eq_cons_iff.mp afterTexts
  obtain ⟨inner, last, rfl, innerTexts, lastTexts⟩ := List.map_eq_append_iff.mp withinTexts
  obtain ⟨closing, rfl, close⟩ := List.map_eq_singleton_iff.mp lastTexts
  exact ⟨opening, name, inner, closing, rfl, opens, isKind, innerTexts, close⟩

section Complete

variable {outer : List Frame} {index : Nat}

theorem readItems_close (top : Frame) {token : Token} (close : token.text = ")") (parent : Frame)
    (rest : List Token) :
    readItems (parent :: outer) top index (token :: rest) =
      readItems outer (parent.push top.node.item) (index + 1) rest := by
  rw [readItems.eq_def]
  simp only [isClose_eq_true.mpr close, if_true]

theorem readItems_word (top : Frame) {token : Token} (word : IsWord token.text)
    (terminated : token.isUnterminated = false) (rest : List Token) :
    readItems outer top index (token :: rest) =
      readItems outer (top.push (.atom token.text)) (index + 1) rest := by
  rw [readItems.eq_def]
  simp [isClose_word word, isOpen_word word, atomAt_eq_ok.mpr ⟨terminated, rfl⟩]

theorem readItems_open (top : Frame) {token kind : Token} (opens : token.text = "(")
    (shallow : outer.length + 1 < maxDepth) (word : IsWord kind.text)
    (terminated : kind.isUnterminated = false) (rest : List Token) :
    readItems outer top index (token :: kind :: rest) =
      readItems (top :: outer) ⟨kind.text, []⟩ (index + 2) rest := by
  have close : token.isClose = false := beq_false_of_ne (by rw [opens]; decide)
  rw [readItems.eq_def]
  simp [close, isOpen_eq_true.mpr opens, Nat.not_le.mpr shallow,
    kindAt_eq_ok.mpr ⟨word, terminated, rfl⟩]

mutual
theorem readItems_flatten (item : Item) (outer : List Frame) (top : Frame) (index : Nat)
    {own : List Token} (rest : List Token) (texts : own.map Token.text = item.flatten)
    (terminated : ∀ token ∈ own, token.isUnterminated = false)
    (words : ∀ word ∈ item.words, IsWord word)
    (depth : outer.length + 1 + item.depth ≤ maxDepth) :
    readItems outer top index (own ++ rest) =
      readItems outer (top.push item) (index + own.length) rest := by
  match item with
  | .atom text =>
    obtain ⟨token, rfl, rfl⟩ := List.map_eq_singleton_iff.mp texts
    exact readItems_word top (words _ List.mem_cons_self) (terminated _ List.mem_cons_self) rest
  | .node kind items =>
    obtain ⟨opening, name, inner, closing, rfl, opens, rfl, innerTexts, close⟩ :=
      map_text_node texts
    simp only [List.mem_cons, List.mem_append, forall_eq_or_imp] at terminated
    simp only [Item.words, List.mem_cons, forall_eq_or_imp] at words
    simp only [Item.depth] at depth
    have inside := readItems_flattenAll items (top :: outer) ⟨name.text, []⟩ (index + 2)
      (closing :: rest) innerTexts
      (fun t h => terminated.2.2 t (.inl h)) words.2
      (by simp only [List.length_cons]; omega)
    have shape : opening :: name :: (inner ++ [closing]) ++ rest =
        opening :: name :: (inner ++ closing :: rest) := by simp
    rw [shape, readItems_open top opens (by omega) words.1 terminated.2.1, inside,
      readItems_close _ close]
    simp [Frame.node, Node.item, Nat.add_assoc, Nat.add_comm 2]

theorem readItems_flattenAll (items : List Item) (outer : List Frame) (top : Frame) (index : Nat)
    {own : List Token} (rest : List Token) (texts : own.map Token.text = Item.flattenAll items)
    (terminated : ∀ token ∈ own, token.isUnterminated = false)
    (words : ∀ word ∈ Item.wordsAll items, IsWord word)
    (depth : outer.length + 1 + Item.depthAll items ≤ maxDepth) :
    readItems outer top index (own ++ rest) =
      readItems outer ⟨top.kind, items.reverse ++ top.items⟩ (index + own.length) rest := by
  match items with
  | [] =>
    obtain rfl := List.map_eq_nil_iff.mp texts
    rfl
  | item :: others =>
    obtain ⟨first, second, rfl, head, tail⟩ := List.map_eq_append_iff.mp texts
    simp only [List.mem_append] at terminated
    simp only [Item.wordsAll, List.mem_append] at words
    simp only [Item.depthAll] at depth
    rw [List.append_assoc, readItems_flatten item _ _ _ _ head (fun t h => terminated t (.inl h))
      (fun w h => words w (.inl h)) (by omega),
      readItems_flattenAll others _ _ _ _ tail (fun t h => terminated t (.inr h))
        (fun w h => words w (.inr h)) (by omega)]
    simp [Frame.push, Nat.add_assoc]
end

end Complete

section Sound

/-- The tokens read so far of the open nodes, innermost first. -/
def openTexts : List Frame → List String
  | [] => []
  | frame :: below =>
    openTexts below ++ "(" :: frame.kind :: Item.flattenAll frame.items.reverse

/-- The open nodes hold words only, and leave room for the nodes around them. -/
def OpenFit : List Frame → Prop
  | [] => True
  | frame :: below =>
    IsWord frame.kind ∧ (∀ item ∈ frame.items, ∀ word ∈ item.words, IsWord word) ∧
      (∀ item ∈ frame.items, below.length + 1 + item.depth ≤ maxDepth) ∧ OpenFit below

theorem openTexts_push (frame : Frame) (item : Item) (below : List Frame) :
    openTexts (frame.push item :: below) = openTexts (frame :: below) ++ item.flatten := by
  simp [openTexts, Frame.push, Item.flattenAll_eq_flatMap]

theorem OpenFit.push {frame : Frame} {item : Item} {below : List Frame}
    (fit : OpenFit (frame :: below)) (words : ∀ word ∈ item.words, IsWord word)
    (depth : below.length + 1 + item.depth ≤ maxDepth) : OpenFit (frame.push item :: below) := by
  obtain ⟨kind, inside, room, rest⟩ := fit
  refine ⟨kind, ?_, ?_, rest⟩
  · intro other member
    rcases List.mem_cons.mp member with rfl | member
    · exact words
    · exact inside other member
  · intro other member
    rcases List.mem_cons.mp member with rfl | member
    · exact depth
    · exact room other member

theorem flatten_node (frame : Frame) :
    frame.node.flatten = openTexts [frame] ++ [")"] := by
  simp [Frame.node, Node.flatten, Node.item, Item.flatten, openTexts]

theorem openTexts_cons (frame : Frame) (below : List Frame) :
    openTexts (frame :: below) = openTexts below ++ openTexts [frame] := by
  simp [openTexts]

theorem OpenFit.words_items {frame : Frame} {below : List Frame} (fit : OpenFit (frame :: below)) :
    ∀ word ∈ Item.wordsAll frame.items.reverse, IsWord word := by
  obtain ⟨-, inside, -, -⟩ := fit
  rw [Item.wordsAll_eq_flatMap]
  intro word member
  obtain ⟨item, within, own⟩ := List.mem_flatMap.mp member
  exact inside item (List.mem_reverse.mp within) word own

theorem OpenFit.depth_items {frame : Frame} {below : List Frame} (fit : OpenFit (frame :: below)) :
    Item.depthAll frame.items.reverse ≤ maxDepth - (below.length + 1) := by
  obtain ⟨-, -, room, -⟩ := fit
  refine Item.depthAll_le.mpr fun item member => ?_
  have := room item (List.mem_reverse.mp member)
  omega

theorem OpenFit.words_node {frame : Frame} {below : List Frame} (fit : OpenFit (frame :: below)) :
    ∀ word ∈ frame.node.item.words, IsWord word :=
  List.forall_mem_cons.mpr ⟨fit.1, fit.words_items⟩

theorem OpenFit.depth_node {frame : Frame} {below : List Frame} (fit : OpenFit (frame :: below))
    (few : below.length < maxDepth) : below.length + frame.node.depth ≤ maxDepth := by
  have inner := fit.depth_items
  simp only [Frame.node, Node.depth, Node.item, Item.depth]
  omega

/-- Tokens that finish the open nodes, of which the outermost is then this node. -/
structure Finishes (frames : List Frame) (own : List Token) (node : Node) : Prop where
  texts : openTexts frames ++ own.map Token.text = node.flatten
  terminated : ∀ token ∈ own, token.isUnterminated = false
  words : ∀ word ∈ node.item.words, IsWord word
  depth : node.depth ≤ maxDepth

theorem Finishes.append {frames : List Frame} {own : List Token} {node : Node}
    (rest : Finishes frames own node) (before : List Frame) (first : List Token)
    (texts : openTexts before ++ first.map Token.text = openTexts frames)
    (terminated : ∀ token ∈ first, token.isUnterminated = false) :
    Finishes before (first ++ own) node where
  texts := by rw [List.map_append, ← List.append_assoc, texts, rest.texts]
  terminated := List.forall_mem_append.mpr ⟨terminated, rest.terminated⟩
  words := rest.words
  depth := rest.depth

theorem OpenFit.finishes {frame : Frame} (fit : OpenFit [frame]) {token : Token}
    (close : token.text = ")") : Finishes [frame] [token] frame.node where
  texts := by rw [flatten_node, List.map_singleton, close]
  terminated := List.forall_mem_singleton.mpr (terminated_close close)
  words := fit.words_node
  depth := by simpa using fit.depth_node (by decide)

theorem readItems_sound {outer : List Frame} {top : Frame} {index : Nat} {tokens : List Token}
    {parsed : Parsed} (read : readItems outer top index tokens = .ok parsed)
    (fit : OpenFit (top :: outer)) (few : outer.length < maxDepth) :
    ∃ own, tokens = own ++ parsed.rest ∧ parsed.index = index + own.length ∧
      Finishes (top :: outer) own parsed.node := by
  -- The open nodes change with every token; what holds of them is kept by each of the cases.
  fun_induction readItems outer top index tokens with
  | case1 | case4 | case5 | case6 | case8 => cases read
  | case2 top index token rest close =>
    cases Except.ok.inj read
    exact ⟨[token], rfl, rfl, fit.finishes (isClose_eq_true.mp close)⟩
  | case3 top index token rest close parent below ih =>
    have text := isClose_eq_true.mp close
    have depth := fit.depth_node few
    simp only [List.length_cons] at depth few
    obtain ⟨own, split, count, finishes⟩ :=
      ih read (fit.2.2.2.push fit.words_node depth) (by omega)
    refine ⟨token :: own, by rw [split]; rfl, by rw [count, List.length_cons]; omega,
      finishes.append _ [token] ?_ (List.forall_mem_singleton.mpr (terminated_close text))⟩
    have closed : top.node.item.flatten = openTexts [top] ++ [")"] := flatten_node top
    rw [openTexts_push, closed, List.map_singleton, text, openTexts_cons top (parent :: below),
      List.append_assoc]
  | case7 outer top index token closed opens shallow kind rest name named ih =>
    obtain ⟨word, closedKind, rfl⟩ := kindAt_eq_ok.mp named
    have text := isOpen_eq_true.mp opens
    have room : outer.length + 1 < maxDepth := Nat.not_le.mp shallow
    obtain ⟨own, split, count, finishes⟩ := ih read ⟨word, by simp, by simp, fit⟩ room
    refine ⟨token :: kind :: own, by rw [split]; rfl,
      by rw [count]; simp only [List.length_cons]; omega,
      finishes.append _ [token, kind] ?_ (by simp [terminated_open text, closedKind])⟩
    rw [openTexts_cons ⟨kind.text, []⟩]
    simp [openTexts, text, Item.flattenAll]
  | case9 outer top index token rest closed opens text named ih =>
    obtain ⟨closedAtom, rfl⟩ := atomAt_eq_ok.mp named
    have word : IsWord token.text :=
      ⟨mt isOpen_eq_true.mpr opens, mt isClose_eq_true.mpr closed⟩
    obtain ⟨own, split, count, finishes⟩ :=
      ih read (fit.push (by simpa [Item.words] using word) (by simp only [Item.depth]; omega)) few
    refine ⟨token :: own, by rw [split]; rfl, by rw [count, List.length_cons]; omega,
      finishes.append _ [token] ?_ (List.forall_mem_singleton.mpr closedAtom)⟩
    rw [openTexts_push, Item.flatten, List.map_singleton]

end Sound

theorem readNode_eq_ok {tokens rest : List Token} {node : Node} {index : Nat} :
    readNode tokens = .ok ⟨node, index, rest⟩ ↔
      ∃ own, tokens = own ++ rest ∧ index = own.length ∧ Document own node := by
  constructor
  · intro read
    unfold readNode at read
    split at read
    · cases read
    · rename_i opening others
      split at read
      · cases read
      · rename_i opens
        have text : opening.text = "(" := isOpen_eq_true.mp (by simpa using opens)
        split at read
        · cases read
        · rename_i kind others
          split at read
          · cases read
          · rename_i name named
            obtain ⟨word, closedKind, rfl⟩ := kindAt_eq_ok.mp named
            obtain ⟨own, split, count, finishes⟩ :=
              readItems_sound read ⟨word, by simp, by simp, trivial⟩ (by decide)
            have whole := finishes.append [] [opening, kind]
              (by simp [openTexts, text, Item.flattenAll])
              (by simp [terminated_open text, closedKind])
            exact ⟨opening :: kind :: own, by rw [split]; rfl,
              count.trans (by simp only [List.length_cons]; omega),
              ⟨whole.texts, whole.terminated, whole.words, whole.depth⟩⟩
  · rintro ⟨own, rfl, rfl, document⟩
    obtain ⟨texts, terminated, words, depth⟩ := document
    obtain ⟨kind, items⟩ := node
    simp only [Node.item, Item.words, List.mem_cons, forall_eq_or_imp] at words
    simp only [Node.depth, Node.item, Item.depth] at depth
    obtain ⟨opening, name, inner, closing, rfl, opens, rfl, innerTexts, close⟩ :=
      map_text_node texts
    simp only [List.mem_cons, List.mem_append, forall_eq_or_imp] at terminated
    have inside := readItems_flattenAll items [] ⟨name.text, []⟩ 2
      (closing :: rest) innerTexts (fun t h => terminated.2.2 t (.inl h)) words.2
      (by simp only [List.length_nil]; omega)
    have shape : opening :: name :: (inner ++ [closing]) ++ rest =
        opening :: name :: (inner ++ closing :: rest) := by simp
    rw [shape, readNode, isOpen_eq_true.mpr opens]
    simp only [kindAt_eq_ok.mpr ⟨words.1, terminated.2.1, rfl⟩, inside]
    rw [readItems.eq_def]
    simp [isClose_eq_true.mpr close, Frame.node, Nat.add_comm 2, Nat.add_assoc]

theorem parseFirst_eq_ok {tokens : List Token} {node : Node} :
    parseFirst tokens = .ok node ↔ ∃ own rest, tokens = own ++ rest ∧ Document own node := by
  unfold parseFirst
  constructor
  · intro first
    cases read : readNode tokens with
    | error e => rw [read] at first; cases first
    | ok parsed =>
      rw [read] at first
      cases Except.ok.inj first
      obtain ⟨own, split, -, document⟩ := readNode_eq_ok.mp read
      exact ⟨own, parsed.rest, split, document⟩
  · rintro ⟨own, rest, split, document⟩
    rw [readNode_eq_ok.mpr ⟨own, split, rfl, document⟩]
    rfl

theorem parseFirst_eq_error {tokens : List Token} {error : ParseError} :
    parseFirst tokens = .error error ↔ readNode tokens = .error error := by
  rw [parseFirst]
  cases readNode tokens <;> simp [Except.map]

theorem parse_eq_ok {text : String} {node : Node} :
    parse text = .ok node ↔ Document (tokenize text) node := by
  unfold parse
  constructor
  · intro whole
    cases read : readNode (tokenize text) with
    | error e => simp only [read] at whole; cases whole
    | ok parsed =>
      obtain ⟨top, index, rest⟩ := parsed
      simp only [read] at whole
      cases rest with
      | cons => cases whole
      | nil =>
        cases Except.ok.inj whole
        obtain ⟨own, split, -, document⟩ := readNode_eq_ok.mp read
        rw [split, List.append_nil]
        exact document
  · intro document
    have read := readNode_eq_ok.mpr ⟨_, (List.append_nil _).symm, rfl, document⟩
    simp only [read]

theorem Document.unique {tokens own own' rest rest' : List Token} {node other : Node}
    (split : tokens = own ++ rest) (document : Document own node)
    (split' : tokens = own' ++ rest') (document' : Document own' other) :
    node = other ∧ own = own' := by
  have first := parseFirst_eq_ok.mpr ⟨own, rest, split, document⟩
  have second := parseFirst_eq_ok.mpr ⟨own', rest', split', document'⟩
  obtain rfl := Except.ok.inj (first.symm.trans second)
  have count : own.length = own'.length := by
    have texts := congrArg List.length (document.texts.trans document'.texts.symm)
    simpa using texts
  exact ⟨rfl, (List.append_inj (split.symm.trans split') count).1⟩

/-- A text is read as a node exactly when its tokens are those of the node, and its front exactly
when they begin with them. No two nodes begin the tokens of one text. -/
theorem parse_iff_document (text : String) (node : Node) :
    (parse text = .ok node ↔ Document (tokenize text) node) ∧
    (parseFirst (tokenize text) = .ok node ↔
      ∃ own rest, tokenize text = own ++ rest ∧ Document own node) ∧
    ∀ other own own' rest rest', tokenize text = own ++ rest → Document own node →
      tokenize text = own' ++ rest' → Document own' other → node = other ∧ own = own' :=
  ⟨parse_eq_ok, parseFirst_eq_ok, fun _ _ _ _ _ split document split' document' =>
    Document.unique split document split' document'⟩

end FootprintTemplate.Sexpr
