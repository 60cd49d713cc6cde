import FootprintTemplate.Proofs.Sexpr.Grammar
import FootprintTemplate.Proofs.Sexpr.Scanning
import Mathlib.Data.List.Chain

/-! Layouts of a text: the same tokens with other gaps between them. Layout never changes the node
that is read, and a node on one line is one of its layouts. -/
namespace FootprintTemplate.Sexpr

/-- Blanks and whole comments. -/
inductive Gap : List Char → Prop where
  | nil : Gap []
  | blank {c : Char} {rest : List Char} : isBlank c = true → Gap rest → Gap (c :: rest)
  | comment {words rest : List Char} : '\n' ∉ words → Gap rest →
      Gap (';' :: (words ++ '\n' :: rest))

/-- The gap at the end of a text, where a comment needs no end of its line. -/
inductive LastGap : List Char → Prop where
  | whole {gap : List Char} : Gap gap → LastGap gap
  | comment {gap words : List Char} : Gap gap → '\n' ∉ words → LastGap (gap ++ ';' :: words)

namespace Scan

theorem push_blank (found : List Token) (offset : Nat) {c : Char} (blank : isBlank c = true) :
    push ⟨found, .gap, offset⟩ c = ⟨found, .gap, offset + c.utf8Size⟩ := by
  simp only [isBlank, Bool.or_eq_true, beq_iff_eq] at blank
  rcases blank with ((rfl | rfl) | rfl) | rfl <;> rfl

theorem read_comment (found : List Token) (offset : Nat) {words : List Char}
    (oneLine : '\n' ∉ words) :
    read ⟨found, .comment, offset⟩ words = ⟨found, .comment, offset + width words⟩ := by
  induction words generalizing offset with
  | nil => simp
  | cons c rest ih =>
    have parts := not_or.mp (mt List.mem_cons.mpr oneLine)
    have step : push ⟨found, .comment, offset⟩ c =
        ⟨found, .comment, offset + c.utf8Size⟩ := by
      simp [push, advance, Ne.symm parts.1]
    rw [read_cons, step, ih _ parts.2]
    simp [Nat.add_assoc]

end Scan

theorem tokensFrom_gap (offset : Nat) {gap : List Char} (isGap : Gap gap) (rest : List Char) :
    tokensFrom offset (gap ++ rest) = tokensFrom (offset + width gap) rest := by
  induction isGap generalizing offset with
  | nil => rfl
  | @blank c others blank _ ih =>
    have step : tokensFrom offset (c :: (others ++ rest)) =
        tokensFrom (offset + c.utf8Size) (others ++ rest) := by
      simp [tokensFrom, Scan.push_blank _ _ blank]
    rw [List.cons_append, step, ih]
    simp [Nat.add_assoc]
  | @comment words others oneLine _ ih =>
    have first : Scan.push ⟨[], .gap, offset⟩ ';' = ⟨[], .comment, offset + 1⟩ := rfl
    have last : ∀ o, Scan.push ⟨[], .comment, o⟩ '\n' = ⟨[], .gap, o + 1⟩ := fun _ => rfl
    have shape : ';' :: (words ++ '\n' :: others) ++ rest =
        ';' :: (words ++ '\n' :: (others ++ rest)) := by simp
    have step : tokensFrom offset (';' :: (words ++ '\n' :: (others ++ rest))) =
        tokensFrom (offset + 1 + width words + 1) (others ++ rest) := by
      rw [tokensFrom, Scan.read_cons, first, Scan.read_append, Scan.read_comment _ _ oneLine,
        Scan.read_cons, last]
      rfl
    have bytes : width (';' :: (words ++ '\n' :: others)) = 1 + width words + 1 + width others := by
      simp [Char.utf8Size, Nat.add_assoc]
    rw [shape, step, ih, bytes]
    simp [Nat.add_assoc]

theorem tokensFrom_lastGap (offset : Nat) {gap : List Char} (isGap : LastGap gap) :
    tokensFrom offset gap = [] := by
  cases isGap with
  | whole isGap =>
    rw [← List.append_nil gap, tokensFrom_gap offset isGap, tokensFrom_nil]
  | @comment before words isGap oneLine =>
    have first : ∀ o, Scan.push ⟨[], .gap, o⟩ ';' = ⟨[], .comment, o + 1⟩ := fun _ => rfl
    rw [tokensFrom_gap offset isGap, tokensFrom, Scan.read_cons, first,
      Scan.read_comment _ _ oneLine]
    rfl

theorem isDelimiter_blank {c : Char} (blank : isBlank c = true) : isDelimiter c = true := by
  simp [isDelimiter, blank]

theorem Gap.endsBare {gap : List Char} (isGap : Gap gap) (rest : List Char) (nonempty : gap ≠ []) :
    EndsBare (gap ++ rest) := by
  intro c first
  cases isGap with
  | nil => exact absurd rfl nonempty
  | blank blank _ => cases first; exact isDelimiter_blank blank
  | comment => cases first; rfl

theorem LastGap.endsBare {gap : List Char} (isGap : LastGap gap) : EndsBare gap := by
  cases isGap with
  | whole isGap =>
    by_cases nonempty : gap = []
    · rw [nonempty]; intro c none; cases none
    · simpa using isGap.endsBare [] nonempty
  | @comment before words isGap _ =>
    by_cases nonempty : before = []
    · rw [nonempty]; intro c first; cases first; rfl
    · exact isGap.endsBare _ nonempty

theorem Lexeme.endsBare {chars : List Char} (lexeme : Lexeme chars) (rest : List Char)
    (other : ¬ IsBare chars) : EndsBare (chars ++ rest) := by
  intro c first
  cases lexeme with
  | opening => cases first; rfl
  | closing => cases first; rfl
  | bare bare => exact absurd bare other
  | quoted => cases first; rfl

/-- A text as its tokens, each after a gap, and the last gap. -/
def laidOut (pieces : List (List Char × String)) (last : List Char) : List Char :=
  pieces.flatMap (fun piece => piece.1 ++ piece.2.toList) ++ last

theorem laidOut_cons (piece : List Char × String) (rest : List (List Char × String))
    (last : List Char) :
    laidOut (piece :: rest) last = piece.1 ++ (piece.2.toList ++ laidOut rest last) := by
  simp [laidOut]

/-- Two bare atoms that follow each other are kept apart. -/
structure Layout (pieces : List (List Char × String)) (last : List Char) : Prop where
  gaps : ∀ piece ∈ pieces, Gap piece.1
  last : LastGap last
  apart : pieces.IsChain fun first second =>
    IsBare first.2.toList → IsBare second.2.toList → second.1 ≠ []

/-- A string that is never closed. -/
def IsOpenString (chars : List Char) : Prop :=
  ∃ body, chars = '"' :: body ∧ IsEscaped '"' body

/-- Every piece holds one token. A string that is never closed runs to the end of the text. -/
def HoldTokens (pieces : List (List Char × String)) (last : List Char) : Prop :=
  ∀ before piece after, pieces = before ++ piece :: after →
    Lexeme piece.2.toList ∨ (IsOpenString piece.2.toList ∧ after = [] ∧ last = [])

theorem holdTokens_cons {piece : List Char × String} {rest : List (List Char × String)}
    {last : List Char} : HoldTokens (piece :: rest) last ↔
      (Lexeme piece.2.toList ∨ (IsOpenString piece.2.toList ∧ rest = [] ∧ last = [])) ∧
        HoldTokens rest last := by
  constructor
  · intro hold
    refine ⟨hold [] piece rest rfl, fun before other after split => ?_⟩
    exact hold (piece :: before) other after (by rw [split]; rfl)
  · rintro ⟨own, others⟩ before other after split
    rcases List.cons_eq_append_iff.mp split with ⟨-, same⟩ | ⟨earlier, -, split⟩
    · cases same
      exact own
    · exact others earlier other after split

/-- The tokens of the pieces, at the bytes at which they start. -/
def tokensAt (offset : Nat) : List (List Char × String) → List Token
  | [] => []
  | (gap, text) :: rest =>
    ⟨text, offset + width gap⟩ :: tokensAt (offset + width gap + width text.toList) rest

theorem map_text_tokensAt (offset : Nat) (pieces : List (List Char × String)) :
    (tokensAt offset pieces).map Token.text = pieces.map Prod.snd := by
  induction pieces generalizing offset with
  | nil => rfl
  | cons piece rest ih => rw [tokensAt, List.map_cons, List.map_cons, ih]

theorem tokensFrom_openString (offset : Nat) {chars : List Char} (unclosed : IsOpenString chars) :
    tokensFrom offset chars = [⟨String.ofList chars, offset⟩] := by
  obtain ⟨body, rfl, escaped⟩ := unclosed
  have first : Scan.push ⟨[], .gap, offset⟩ '"' =
      ⟨[], .quoted offset ['"'], offset + '"'.utf8Size⟩ := rfl
  have inside := Scan.read_escaped [] offset (offset + '"'.utf8Size) '"' [] body escaped
  have text : body.reverse ++ ['"'] = ('"' :: body).reverse := by simp
  rw [tokensFrom, Scan.read_cons, first, inside, text]
  exact congrArg (fun token => [token]) (Scan.finished_text offset ('"' :: body))

theorem Layout.endsBare {piece : List Char × String} {rest : List (List Char × String)}
    {last : List Char} (layout : Layout (piece :: rest) last) (hold : HoldTokens rest last)
    (bare : IsBare piece.2.toList) : EndsBare (laidOut rest last) := by
  obtain ⟨gaps, isLast, apart⟩ := layout
  cases rest with
  | nil => exact isLast.endsBare
  | cons next others =>
    rw [laidOut_cons]
    -- Without a gap the next token is not bare too, so that it ends the atom itself.
    by_cases gap : next.1 = []
    · have other : ¬ IsBare next.2.toList :=
        fun second => (List.isChain_cons_cons.mp apart).1 bare second gap
      rw [gap]
      rcases (holdTokens_cons.mp hold).1 with lexeme | ⟨⟨body, shape, -⟩, -, -⟩
      · exact lexeme.endsBare _ other
      · rw [shape]
        intro c first
        cases first
        rfl
    · exact (gaps next (by simp)).endsBare _ gap

/-- The tokens of a layout are read, each at its byte. -/
theorem tokensFrom_laidOut (offset : Nat) {pieces : List (List Char × String)} {last : List Char}
    (layout : Layout pieces last) (hold : HoldTokens pieces last) :
    tokensFrom offset (laidOut pieces last) = tokensAt offset pieces := by
  induction pieces generalizing offset with
  | nil => simp [laidOut, tokensAt, tokensFrom_lastGap offset layout.last]
  | cons piece rest ih =>
    obtain ⟨own, others⟩ := holdTokens_cons.mp hold
    have ends : IsBare piece.2.toList → EndsBare (laidOut rest last) := layout.endsBare others
    obtain ⟨gaps, isLast, apart⟩ := layout
    rw [laidOut_cons, tokensFrom_gap offset (gaps piece List.mem_cons_self), tokensAt]
    rcases own with lexeme | ⟨unclosed, rfl, rfl⟩
    · rw [tokensFrom_lexeme _ lexeme ends, String.ofList_toList,
        ih _ ⟨fun p h => gaps p (List.mem_cons_of_mem _ h), isLast, apart.tail⟩ others]
    · have nothing : laidOut [] [] = [] := rfl
      rw [nothing, List.append_nil, tokensFrom_openString _ unclosed, String.ofList_toList]
      rfl

mutual
theorem lexeme_of_mem_flatten {text : String} (item : Item)
    (lexemes : ∀ word ∈ item.words, Lexeme word.toList) (member : text ∈ item.flatten) :
    Lexeme text.toList := by
  match item with
  | .atom own => exact lexemes text member
  | .node kind items =>
    rw [Item.words] at lexemes
    obtain ⟨own, rest⟩ := List.forall_mem_cons.mp lexemes
    rw [Item.flatten, List.mem_cons, List.mem_cons, List.mem_append, List.mem_singleton] at member
    rcases member with rfl | rfl | inner | rfl
    · exact .opening
    · exact own
    · exact lexeme_of_mem_flattenAll items rest inner
    · exact .closing

theorem lexeme_of_mem_flattenAll {text : String} (items : List Item)
    (lexemes : ∀ word ∈ Item.wordsAll items, Lexeme word.toList)
    (member : text ∈ Item.flattenAll items) : Lexeme text.toList := by
  match items with
  | [] => cases member
  | item :: rest =>
    rw [Item.wordsAll] at lexemes
    rw [Item.flattenAll, List.mem_append] at member
    obtain ⟨first, others⟩ := List.forall_mem_append.mp lexemes
    exact member.elim (lexeme_of_mem_flatten item first) (lexeme_of_mem_flattenAll rest others)
end

/-- Nodes that stand for a text: their tokens are lexemes, their words no parentheses, and they do
not nest too deep. -/
structure Node.Readable (node : Node) : Prop where
  lexemes : ∀ text ∈ node.flatten, Lexeme text.toList
  words : ∀ word ∈ node.item.words, IsWord word
  depth : node.depth ≤ maxDepth

theorem Document.readable {text : String} {node : Node} {own rest : List Token}
    (split : tokenize text = own ++ rest) (document : Document own node) : node.Readable := by
  refine ⟨?_, document.words, document.depth⟩
  intro word member
  rw [← document.texts] at member
  obtain ⟨token, inside, rfl⟩ := List.mem_map.mp member
  have found : token ∈ tokenize text := by rw [split]; exact List.mem_append_left _ inside
  exact lexeme_of_mem_tokenize found (document.terminated token inside)

theorem readable_of_parse {text : String} {node : Node} (read : parse text = .ok node) :
    node.Readable :=
  (parse_eq_ok.mp read).readable (List.append_nil _).symm

theorem readable_of_parseFirst {text : String} {node : Node}
    (read : parseFirst (tokenize text) = .ok node) : node.Readable := by
  obtain ⟨own, rest, split, document⟩ := parseFirst_eq_ok.mp read
  exact document.readable split

theorem Node.Readable.parse {node : Node} (readable : node.Readable) {text : String}
    (texts : (tokenize text).map Token.text = node.flatten) : parse text = .ok node := by
  refine parse_eq_ok.mpr ⟨texts, ?_, readable.words, readable.depth⟩
  intro token member
  have inside : token.text ∈ node.flatten := by rw [← texts]; exact List.mem_map_of_mem member
  exact isUnclosed_lexeme (readable.lexemes token.text inside)

theorem endsBare_cons {c : Char} (ends : isDelimiter c = true) (rest : List Char) :
    EndsBare (c :: rest) := by
  intro d first
  cases first
  exact ends

theorem endsBare_charsAll (items : List Item) {rest : List Char} (ends : EndsBare rest) :
    EndsBare (Item.charsAll items ++ rest) := by
  cases items with
  | nil => exact ends
  | cons => exact endsBare_cons rfl _

mutual
theorem tokensFrom_chars (item : Item) (offset : Nat) {rest : List Char} (ends : EndsBare rest)
    (lexemes : ∀ text ∈ item.flatten, Lexeme text.toList) :
    (tokensFrom offset (item.chars ++ rest)).map Token.text =
      item.flatten ++ (tokensFrom (offset + width item.chars) rest).map Token.text := by
  match item with
  | .atom text =>
    rw [Item.chars, tokensFrom_lexeme _ (lexemes text List.mem_cons_self) fun _ => ends]
    simp [Item.flatten]
  | .node kind items =>
    simp only [Item.flatten, List.mem_cons, List.mem_append, forall_eq_or_imp] at lexemes
    have shape : Item.chars (.node kind items) ++ rest =
        '(' :: (kind.toList ++ (Item.charsAll items ++ ')' :: rest)) := by simp [Item.chars]
    have bytes : offset + 1 + width kind.toList + width (Item.charsAll items) + 1 =
        offset + width (Item.chars (.node kind items)) := by
      simp [Item.chars, Char.utf8Size, Nat.add_assoc]
    have close : EndsBare (')' :: rest) := endsBare_cons rfl rest
    rw [shape, tokensFrom_opening, List.map_cons,
      tokensFrom_lexeme _ lexemes.2.1 fun _ => endsBare_charsAll items close, List.map_cons,
      tokensFrom_charsAll items _ close fun text h => lexemes.2.2 text (.inl h),
      tokensFrom_closing, bytes]
    simp [Item.flatten]

theorem tokensFrom_charsAll (items : List Item) (offset : Nat) {rest : List Char}
    (ends : EndsBare rest) (lexemes : ∀ text ∈ Item.flattenAll items, Lexeme text.toList) :
    (tokensFrom offset (Item.charsAll items ++ rest)).map Token.text =
      Item.flattenAll items ++
        (tokensFrom (offset + width (Item.charsAll items)) rest).map Token.text := by
  match items with
  | [] => rfl
  | item :: others =>
    simp only [Item.flattenAll, List.mem_append] at lexemes
    have shape : Item.charsAll (item :: others) ++ rest =
        [' '] ++ (item.chars ++ (Item.charsAll others ++ rest)) := by simp [Item.charsAll]
    have bytes : offset + width [' '] + width item.chars + width (Item.charsAll others) =
        offset + width (Item.charsAll (item :: others)) := by
      simp [Item.charsAll, Nat.add_assoc]
    rw [shape, tokensFrom_gap _ (.blank rfl .nil),
      tokensFrom_chars item _ (endsBare_charsAll others ends) fun text h => lexemes text (.inl h),
      tokensFrom_charsAll others _ ends fun text h => lexemes text (.inr h), bytes,
      Item.flattenAll, List.append_assoc]
end

theorem Node.Readable.parse_text {node : Node} (readable : node.Readable) :
    Sexpr.parse node.text = .ok node := by
  refine readable.parse ?_
  have line := tokensFrom_chars node.item 0 endsBare_nil readable.lexemes
  rw [tokenize_eq_tokensFrom, Node.text, String.toList_ofList]
  simpa [Node.flatten] using line

theorem Node.Readable.parse_laidOut {node : Node} (readable : node.Readable)
    {pieces : List (List Char × String)} {last : List Char} (layout : Layout pieces last)
    (texts : pieces.map Prod.snd = node.flatten) :
    Sexpr.parse (String.ofList (laidOut pieces last)) = .ok node := by
  refine readable.parse ?_
  have hold : HoldTokens pieces last := by
    refine fun before piece after split => .inl (readable.lexemes piece.2 ?_)
    rw [← texts, split]
    simp
  rw [tokenize_eq_tokensFrom, String.toList_ofList, tokensFrom_laidOut 0 layout hold,
    map_text_tokensAt, texts]

/-- Every layout of the tokens of a node that was read is read as that node again, and so is its
one line. -/
theorem parse_layout {text : String} {node : Node}
    (read : parse text = .ok node ∨ parseFirst (tokenize text) = .ok node) :
    (∀ pieces last, Layout pieces last → pieces.map Prod.snd = node.flatten →
      parse (String.ofList (laidOut pieces last)) = .ok node) ∧
    parse node.text = .ok node := by
  have readable : node.Readable := read.elim readable_of_parse readable_of_parseFirst
  exact ⟨fun _ _ layout texts => readable.parse_laidOut layout texts, readable.parse_text⟩

/-- A comment that holds parentheses and quotes, an atom that ends in a backslash right before a
string, and a comment without an end. -/
theorem parse_layout_glued :
    parse "(a \"b\\\"\" c\\ \"d\")" =
        .ok ⟨"a", [.atom "\"b\\\"\"", .atom "c\\", .atom "\"d\""]⟩ ∧
      parse (String.ofList (laidOut [([], "("), (";(\"\n".toList, "a"), ([], "\"b\\\"\""),
          ([], "c\\"), ([], "\"d\""), ("\t".toList, ")")] ";)".toList)) =
        .ok ⟨"a", [.atom "\"b\\\"\"", .atom "c\\", .atom "\"d\""]⟩ := by
  have read : parse "(a \"b\\\"\" c\\ \"d\")" =
      .ok ⟨"a", [.atom "\"b\\\"\"", .atom "c\\", .atom "\"d\""]⟩ :=
    parse_eq_ok.mpr ⟨by decide, by decide, by decide, by decide⟩
  refine ⟨read, (parse_layout (.inl read)).1 _ _ ⟨?_, ?_, by decide⟩ rfl⟩
  · intro piece member
    simp only [List.mem_cons, List.not_mem_nil, or_false] at member
    rcases member with rfl | rfl | rfl | rfl | rfl | rfl
    · exact .nil
    · exact .comment (by decide : '\n' ∉ ['(', '"']) .nil
    · exact .nil
    · exact .nil
    · exact .nil
    · exact .blank rfl .nil
  · exact .comment .nil (by decide : '\n' ∉ [')'])

end FootprintTemplate.Sexpr
