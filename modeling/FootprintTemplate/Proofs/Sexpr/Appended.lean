import FootprintTemplate.Proofs.Sexpr.Faults

/-! Texts that go on. What is appended to a text can change its last token, but no parenthesis; a
reading that has come to the end of its node, or to a parenthesis that does not fit, does not see it. -/
namespace FootprintTemplate.Sexpr

/-- Outcomes that a parenthesis decides. -/
inductive IsFinal : Except ParseError Node → Prop where
  | node (node : Node) : IsFinal (.ok node)
  | missingType (index offset : Nat) : IsFinal (.error (.missingType index offset))
  | tooDeep (index offset : Nat) : IsFinal (.error (.tooDeep index offset))

section Tokens

theorem isWord_bare {text : String} (bare : IsBare text.toList) : IsWord text := by
  constructor
  · rintro rfl
    exact absurd (bare.2 '(' List.mem_cons_self) (by decide)
  · rintro rfl
    exact absurd (bare.2 ')' List.mem_cons_self) (by decide)

theorem isWord_open {text : String} {body : List Char} (shape : text.toList = '"' :: body) :
    IsWord text := by
  constructor
  · rintro rfl
    cases shape
  · rintro rfl
    cases shape

namespace Scan

/-- A token that a reading is still in is no parenthesis. -/
theorem Sound.tokens {scan : Scan} (sound : scan.Sound) :
    ∃ loose, scan.tokens = scan.found.reverse ++ loose ∧ ∀ token ∈ loose, IsWord token.text := by
  obtain ⟨found, mode, offset⟩ := scan
  cases mode with
  | gap => exact ⟨[], (List.append_nil _).symm, nofun⟩
  | comment => exact ⟨[], (List.append_nil _).symm, nofun⟩
  | atom start chars =>
    have bare : IsBare chars.reverse := sound.mode
    exact ⟨[finished start chars], List.reverse_cons,
      List.forall_mem_singleton.mpr (isWord_bare (by simpa [finished] using bare))⟩
  | quoted start chars =>
    obtain ⟨body, shape, -⟩ := sound.mode
    exact ⟨[finished start chars], List.reverse_cons,
      List.forall_mem_singleton.mpr (isWord_open (by simpa [finished] using shape))⟩

/-- The tokens that are finished stay as they are. -/
theorem tokens_read (scan : Scan) (chars : List Char) :
    ∃ later, (scan.read chars).tokens = scan.found.reverse ++ later := by
  have anew := read_onto ⟨[], scan.mode, scan.offset⟩ scan.found chars
  rw [onto, List.nil_append] at anew
  exact ⟨_, by rw [anew, tokens_onto]⟩

end Scan

/-- The tokens of a text, and those of one that goes on from it, are the same up to the last
parenthesis of the first text. -/
theorem tokenize_append (text more : String) :
    ∃ firm loose later, tokenize text = firm ++ loose ∧ tokenize (text ++ more) = firm ++ later ∧
      ∀ token ∈ loose, IsWord token.text := by
  have start : Scan.start.Sound := ⟨nofun, trivial⟩
  obtain ⟨loose, own, words⟩ := (Scan.read_sound start text.toList).tokens
  obtain ⟨later, longer⟩ := Scan.tokens_read (Scan.start.read text.toList) more.toList
  rw [← Scan.read_append, ← String.toList_append] at longer
  exact ⟨_, loose, later, own, longer, words⟩

theorem tokenize_append_of_parenthesis {text : String} {own rest : List Token} {token : Token}
    (split : tokenize text = own ++ token :: rest) (parenthesis : ¬ IsWord token.text)
    (more : String) : ∃ later, tokenize (text ++ more) = own ++ token :: later := by
  obtain ⟨firm, loose, later, tokens, longer, words⟩ := tokenize_append text more
  rw [tokens] at split
  have last : ∀ behind, loose ≠ behind ++ token :: rest := by
    rintro behind rfl
    exact parenthesis (words token (by simp))
  obtain ⟨behind, -, after⟩ | ⟨behind, front, after⟩ := List.append_eq_append_iff.mp split
  · exact absurd after (last behind)
  · cases behind with
    | nil => exact absurd after.symm (last [])
    | cons first behind =>
      obtain ⟨rfl, -⟩ := List.cons.inj after
      exact ⟨behind ++ later, by rw [longer, front, List.append_assoc, List.cons_append]⟩

end Tokens

section Reading

theorem Document.append {text : String} {own rest : List Token} {node : Node}
    (document : Document own node) (split : tokenize text = own ++ rest) (more : String) :
    ∃ later, tokenize (text ++ more) = own ++ later := by
  obtain ⟨opening, name, inner, closing, rfl, -, -, -, close⟩ := map_text_node document.texts
  have shape (rest : List Token) : opening :: name :: (inner ++ [closing]) ++ rest =
      (opening :: name :: inner) ++ closing :: rest := by simp
  rw [shape] at split
  obtain ⟨later, longer⟩ := tokenize_append_of_parenthesis split (fun word => word.2 close) more
  exact ⟨later, longer.trans (shape later).symm⟩

/-- An error that a parenthesis decides comes of a parenthesis inside an open node. -/
theorem IsFinal.parenthesis {stage : Stage} {index : Nat} {token : Token} {error : ParseError}
    (final : IsFinal (.error error)) (fault : stage.fault? index token = some error) :
    ¬ IsWord token.text ∧ ∀ node, stage ≠ .done node := by
  unfold IsWord
  cases final <;> cases stage <;> grind [Stage.fault?, Token.isOpen, Token.isClose]

/-- Reading the first node of a text comes to the same, whatever is appended to the text, where the
node is read to its end or a parenthesis is refused. -/
theorem parseFirst_append {text : String} (final : IsFinal (parseFirst (tokenize text)))
    (more : String) : parseFirst (tokenize (text ++ more)) = parseFirst (tokenize text) := by
  cases outcome : parseFirst (tokenize text) with
  | ok node =>
    obtain ⟨own, rest, split, document⟩ := parseFirst_eq_ok.mp outcome
    obtain ⟨later, longer⟩ := document.append split more
    exact parseFirst_eq_ok.mpr ⟨own, later, longer, document⟩
  | error error =>
    rw [outcome] at final
    obtain ⟨stage, own, rest, split, terminated, fit, texts, stops⟩ :=
      readNode_halts (parseFirst_eq_error.mp outcome)
    cases rest with
    | nil =>
      obtain ⟨-, rfl⟩ := stops
      cases final
    | cons token rest =>
      rw [List.nil_append] at texts
      rw [Nat.zero_add] at stops
      obtain ⟨parenthesis, within⟩ := final.parenthesis stops
      obtain ⟨later, longer⟩ := tokenize_append_of_parenthesis split parenthesis more
      rw [longer]
      exact parseFirst_eq_error.mpr (readNode_stops fit within texts terminated stops later)

/-- A node before a string that the appended text closes, and a node without a kind before a comment
that it ends. -/
theorem parseFirst_append_openString :
    IsFinal (parseFirst (tokenize "(a b) \"x")) ∧
      parseFirst (tokenize ("(a b) \"x" ++ "y\" (c")) = .ok ⟨"a", [.atom "b"]⟩ ∧
      IsFinal (parseFirst (tokenize "(a (); b")) ∧
      parseFirst (tokenize ("(a (); b" ++ "\n\"")) = .error (.missingType 3 4) := by
  have tokens : tokenize "(a b) \"x" = [⟨"(", 0⟩, ⟨"a", 1⟩, ⟨"b", 3⟩, ⟨")", 4⟩, ⟨"\"x", 6⟩] := by decide
  have others : tokenize "(a (); b" = [⟨"(", 0⟩, ⟨"a", 1⟩, ⟨"(", 3⟩, ⟨")", 4⟩] := by decide
  have whole : parseFirst (tokenize "(a b) \"x") = .ok ⟨"a", [.atom "b"]⟩ := by rw [tokens]; rfl
  have unnamed : parseFirst (tokenize "(a (); b") = .error (.missingType 3 4) := by rw [others]; rfl
  have final : IsFinal (parseFirst (tokenize "(a b) \"x")) := whole ▸ .node _
  have decided : IsFinal (parseFirst (tokenize "(a (); b")) := unnamed ▸ .missingType _ _
  exact ⟨final, (parseFirst_append final _).trans whole, decided,
    (parseFirst_append decided _).trans unnamed⟩

end Reading

end FootprintTemplate.Sexpr
