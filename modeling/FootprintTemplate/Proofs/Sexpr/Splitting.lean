import FootprintTemplate.Proofs.Sexpr.Layout
import Mathlib.Data.List.TakeWhile

/-! Texts taken apart. Every text is made of tokens and gaps in exactly one way, and the reader finds
these tokens at their bytes. -/
namespace FootprintTemplate.Sexpr

/-- A text as tokens with gaps before, between and after them. -/
structure Split (text : List Char) (pieces : List (List Char × String)) (last : List Char) :
    Prop where
  text : laidOut pieces last = text
  layout : Layout pieces last
  tokens : HoldTokens pieces last

section Existence

/-- A gap ends right before this text. -/
def EndsGap (text : List Char) : Prop :=
  ∃ c rest, text = c :: rest ∧ isBlank c = false ∧ c ≠ ';'

theorem exists_gap (text : List Char) :
    LastGap text ∨ ∃ gap rest, text = gap ++ rest ∧ Gap gap ∧ EndsGap rest := by
  -- A comment is passed over whole, so what is left is shorter by more than one character.
  induction length : text.length using Nat.strong_induction_on generalizing text with
  | _ n ih =>
    cases text with
    | nil => exact .inl (.whole .nil)
    | cons c rest =>
      by_cases blank : isBlank c = true
      · rcases ih rest.length (by simp [← length]) rest rfl with isLast | ⟨gap, others, rfl, isGap, ends⟩
        · refine .inl ?_
          cases isLast with
          | whole isGap => exact .whole (.blank blank isGap)
          | @comment gap words isGap oneLine => exact .comment (.blank blank isGap) oneLine
        · exact .inr ⟨c :: gap, others, rfl, .blank blank isGap, ends⟩
      · by_cases comment : c = ';'
        · subst comment
          by_cases closed : '\n' ∈ rest
          · obtain ⟨words, after, rfl, oneLine⟩ := List.eq_append_cons_of_mem closed
            have shorter : after.length < n := by simp [← length]; omega
            rcases ih after.length shorter after rfl with isLast | ⟨gap, others, rfl, isGap, ends⟩
            · refine .inl ?_
              cases isLast with
              | whole isGap => exact .whole (.comment oneLine isGap)
              | @comment gap more isGap endless =>
                have shape : ';' :: (words ++ '\n' :: (gap ++ ';' :: more)) =
                    ';' :: (words ++ '\n' :: gap) ++ ';' :: more := by simp
                rw [shape]
                exact .comment (.comment oneLine isGap) endless
            · exact .inr ⟨';' :: (words ++ '\n' :: gap), others, by simp, .comment oneLine isGap, ends⟩
          · exact .inl (.comment .nil closed)
        · exact .inr ⟨[], c :: rest, rfl, .nil, c, rest, rfl, by simpa using blank, comment⟩

theorem exists_closing (before : Char) (text : List Char) :
    IsEscaped before text ∨ ∃ body rest, text = body ++ '"' :: rest ∧ IsEscaped before body ∧
      body.getLastD before ≠ '\\' := by
  induction text generalizing before with
  | nil => exact .inl trivial
  | cons c rest ih =>
    by_cases closes : c = '"' ∧ before ≠ '\\'
    · obtain ⟨rfl, plain⟩ := closes
      exact .inr ⟨[], rest, rfl, trivial, plain⟩
    · have own : c = '"' → before = '\\' := fun quote => not_not.mp fun plain => closes ⟨quote, plain⟩
      rcases ih c with escaped | ⟨body, others, rfl, escaped, last⟩
      · exact .inl ⟨own, escaped⟩
      · refine .inr ⟨c :: body, others, rfl, ⟨own, escaped⟩, ?_⟩
        cases body with
        | nil => exact last
        | cons => exact last

/-- A token stands where a gap ends. -/
theorem exists_token {text : List Char} (ends : EndsGap text) :
    ∃ token rest, text = token ++ rest ∧ token ≠ [] ∧
      ((Lexeme token ∧ (IsBare token → EndsBare rest)) ∨ (IsOpenString token ∧ rest = [])) := by
  obtain ⟨c, rest, rfl, blank, comment⟩ := ends
  by_cases quote : c = '"'
  · subst quote
    rcases exists_closing '"' rest with escaped | ⟨body, others, rfl, escaped, last⟩
    · exact ⟨'"' :: rest, [], by simp, by simp, .inr ⟨⟨rest, rfl, escaped⟩, rfl⟩⟩
    · refine ⟨quotedChars body, others, by simp [quotedChars], by simp [quotedChars], .inl ⟨?_, ?_⟩⟩
      · refine .quoted ⟨escaped, fun slash => last ?_⟩
        rw [List.getLastD_eq_getLast?, slash]
        rfl
      · exact fun bare => absurd List.mem_cons_self bare.no_quote
  · by_cases paren : c = '(' ∨ c = ')'
    · have lexeme : Lexeme [c] := by
        rcases paren with rfl | rfl
        · exact .opening
        · exact .closing
      refine ⟨[c], rest, rfl, by simp, .inl ⟨lexeme, fun bare => ?_⟩⟩
      have plain := bare.2 c List.mem_cons_self
      rcases paren with rfl | rfl <;> cases plain
    · have plain : isDelimiter c = false := by
        simp only [not_or] at paren
        simp [isDelimiter, quote, comment, paren, blank]
      let isPlain : Char → Bool := fun d => !isDelimiter d
      have bare : IsBare (c :: rest.takeWhile isPlain) := by
        refine ⟨by simp, List.forall_mem_cons.mpr ⟨plain, fun d member => ?_⟩⟩
        simpa [isPlain] using List.mem_takeWhile_imp member
      refine ⟨c :: rest.takeWhile isPlain, rest.dropWhile isPlain, by simp, by simp,
        .inl ⟨.bare bare, fun _ d first => ?_⟩⟩
      have stops := List.head?_dropWhile_not isPlain rest
      rw [Option.mem_def.mp first] at stops
      simpa [isPlain] using stops

theorem exists_split (text : List Char) : ∃ pieces last, Split text pieces last := by
  induction length : text.length using Nat.strong_induction_on generalizing text with
  | _ n ih =>
    rcases exists_gap text with isLast | ⟨gap, rest, rfl, isGap, ends⟩
    · refine ⟨[], text, rfl, ⟨by simp, isLast, .nil⟩, fun before piece after split => ?_⟩
      simp at split
    · obtain ⟨token, others, rfl, nonempty, kind⟩ := exists_token ends
      rcases kind with ⟨lexeme, apart⟩ | ⟨unclosed, rfl⟩
      · have shorter : others.length < n := by
          have := List.length_pos_iff.mpr nonempty
          simp only [List.length_append] at length
          omega
        obtain ⟨pieces, last, split⟩ := ih others.length shorter others rfl
        refine ⟨(gap, String.ofList token) :: pieces, last, ?_, ⟨?_, split.layout.last, ?_⟩, ?_⟩
        · rw [laidOut_cons, split.text, String.toList_ofList]
        · exact List.forall_mem_cons.mpr ⟨isGap, split.layout.gaps⟩
        · refine List.isChain_cons.mpr ⟨fun next first bare second glued => ?_, split.layout.apart⟩
          -- The next token would go on right after the atom, so the atom would not have ended.
          obtain ⟨more, rfl⟩ := List.head?_eq_some_iff.mp first
          rw [String.toList_ofList] at bare
          have stops := apart bare
          rw [← split.text] at stops
          obtain ⟨d, chars, shape⟩ := List.exists_cons_of_ne_nil second.1
          have ends := stops d (by simp [laidOut, glued, shape])
          have plain := second.2 d (shape ▸ List.mem_cons_self)
          rw [plain] at ends
          cases ends
        · exact holdTokens_cons.mpr ⟨.inl (by rwa [String.toList_ofList]), split.tokens⟩
      · refine ⟨[(gap, String.ofList token)], [], by simp [laidOut],
          ⟨by simpa using isGap, .whole .nil, by simp⟩,
          holdTokens_cons.mpr ⟨.inr ⟨by rwa [String.toList_ofList], rfl, rfl⟩, ?_⟩⟩
        intro before piece after split
        simp at split

end Existence

section Uniqueness

variable {text : List Char}

theorem Split.tokensFrom {pieces : List (List Char × String)} {last : List Char}
    (split : Split text pieces last) (offset : Nat) :
    tokensFrom offset text = tokensAt offset pieces := by
  rw [← split.text]
  exact tokensFrom_laidOut offset split.layout split.tokens

theorem eq_nil_of_width {chars : List Char} (empty : width chars = 0) : chars = [] := by
  cases chars with
  | nil => rfl
  | cons c rest =>
    rw [width_cons] at empty
    have := c.utf8Size_pos
    omega

theorem append_inj_of_width {first second rest others : List Char}
    (same : first ++ rest = second ++ others) (bytes : width first = width second) :
    first = second ∧ rest = others := by
  rcases List.append_eq_append_iff.mp same with ⟨more, rfl, rfl⟩ | ⟨more, rfl, rfl⟩ <;>
  · rw [width_append] at bytes
    rw [eq_nil_of_width (by omega : width more = 0)]
    simp

theorem pieces_unique {offset : Nat} {pieces others : List (List Char × String)}
    {last final : List Char} (text : laidOut pieces last = laidOut others final)
    (tokens : tokensAt offset pieces = tokensAt offset others) : pieces = others ∧ last = final := by
  induction pieces generalizing offset others with
  | nil =>
    cases others with
    | nil => exact ⟨rfl, text⟩
    | cons => cases tokens
  | cons piece rest ih =>
    cases others with
    | nil => cases tokens
    | cons other more =>
      obtain ⟨gap, token⟩ := piece
      obtain ⟨gap', token'⟩ := other
      simp only [tokensAt, List.cons.injEq, Token.mk.injEq] at tokens
      obtain ⟨⟨rfl, start⟩, later⟩ := tokens
      rw [laidOut_cons, laidOut_cons] at text
      obtain ⟨rfl, text⟩ := append_inj_of_width text (Nat.add_left_cancel start)
      obtain ⟨rfl, rfl⟩ := ih (List.append_cancel_left text) later
      exact ⟨rfl, rfl⟩

theorem Split.unique {pieces others : List (List Char × String)} {last final : List Char}
    (split : Split text pieces last) (other : Split text others final) :
    others = pieces ∧ final = last :=
  pieces_unique (other.text.trans split.text.symm)
    ((other.tokensFrom 0).symm.trans (split.tokensFrom 0))

end Uniqueness

section Bytes

theorem utf8ByteSize_ofList (chars : List Char) : (String.ofList chars).utf8ByteSize = width chars := by
  induction chars with
  | nil => rfl
  | cons c rest ih =>
    rw [width_cons, ← ih, ← List.singleton_append, String.ofList_append,
      String.utf8ByteSize_append, ← String.singleton_eq_ofList, String.utf8ByteSize_singleton]

theorem tokensAt_getElem? (offset : Nat) (before after : List (List Char × String))
    (gap : List Char) (text : String) :
    (tokensAt offset (before ++ (gap, text) :: after))[before.length]? =
      some ⟨text, offset + width (laidOut before gap)⟩ := by
  induction before generalizing offset with
  | nil => rfl
  | cons piece rest ih =>
    rw [List.cons_append, tokensAt, List.length_cons, List.getElem?_cons_succ, ih]
    simp [laidOut, Nat.add_assoc]

/-- The byte after a front of a text is no byte inside a character. -/
theorem isValid_width {text : String} {front back : List Char} (split : text.toList = front ++ back) :
    String.Pos.Raw.IsValid text ⟨width front⟩ := by
  refine String.Pos.Raw.isValid_iff_exists_append.mpr
    ⟨String.ofList front, String.ofList back, ?_, ?_⟩
  · rw [← String.ofList_append, ← split, String.ofList_toList]
  · rw [String.Pos.Raw.ext_iff, String.byteIdx_rawEndPos, utf8ByteSize_ofList]

/-- The token stands in the text at its byte. -/
def Token.StandsIn (token : Token) (text : String) : Prop :=
  ∃ front back, text = front ++ token.text ++ back ∧ front.utf8ByteSize = token.offset

theorem mem_tokensAt {offset : Nat} {pieces : List (List Char × String)} {token : Token}
    (member : token ∈ tokensAt offset pieces) :
    ∃ before gap after, pieces = before ++ (gap, token.text) :: after ∧
      token.offset = offset + width (laidOut before gap) := by
  induction pieces generalizing offset with
  | nil => cases member
  | cons piece rest ih =>
    obtain ⟨gap, own⟩ := piece
    rcases List.mem_cons.mp member with rfl | later
    · exact ⟨[], gap, rest, rfl, rfl⟩
    · obtain ⟨before, gap', after, rfl, start⟩ := ih later
      refine ⟨(gap, own) :: before, gap', after, rfl, ?_⟩
      rw [start, laidOut_cons, width_append, width_append]
      simp only [Nat.add_assoc]

theorem standsIn_of_mem_tokenize {text : String} {token : Token} (member : token ∈ tokenize text) :
    token.StandsIn text := by
  obtain ⟨pieces, last, split⟩ := exists_split text.toList
  have tokens : tokenize text = tokensAt 0 pieces := split.tokensFrom 0
  rw [tokens] at member
  obtain ⟨before, gap, after, rfl, start⟩ := mem_tokensAt member
  refine ⟨String.ofList (laidOut before gap), String.ofList (laidOut after last), ?_, ?_⟩
  · rw [← String.ofList_toList (s := text), ← split.text, ← String.ofList_toList (s := token.text),
      ← String.ofList_append, ← String.ofList_append]
    simp [laidOut]
  · rw [utf8ByteSize_ofList, start, Nat.zero_add]

end Bytes

/-- Every text is made of tokens and gaps in exactly one way. The reader finds these tokens in order,
each at the byte after all that stands before it, and no token begins or ends inside a character. -/
theorem tokenize_split (text : String) :
    ∃ pieces last, Split text.toList pieces last ∧
      (∀ others final, Split text.toList others final → others = pieces ∧ final = last) ∧
      (tokenize text).map Token.text = pieces.map Prod.snd ∧
      ∀ before gap token after, pieces = before ++ (gap, token) :: after →
        let start := (String.ofList (laidOut before gap)).utf8ByteSize
        (tokenize text)[before.length]? = some ⟨token, start⟩ ∧
          String.Pos.Raw.IsValid text ⟨start⟩ ∧
          String.Pos.Raw.IsValid text ⟨start + token.utf8ByteSize⟩ := by
  obtain ⟨pieces, last, split⟩ := exists_split text.toList
  have tokens : tokenize text = tokensAt 0 pieces := split.tokensFrom 0
  refine ⟨pieces, last, split, fun others final => split.unique, ?_, ?_⟩
  · rw [tokens, map_text_tokensAt]
  · rintro before gap token after rfl start
    have front : text.toList = laidOut before gap ++ (token.toList ++ laidOut after last) := by
      rw [← split.text]
      simp [laidOut]
    have bytes : start = width (laidOut before gap) := utf8ByteSize_ofList _
    have stop : start + token.utf8ByteSize = width (laidOut before gap ++ token.toList) := by
      rw [width_append, bytes, ← utf8ByteSize_ofList token.toList, String.ofList_toList]
    refine ⟨?_, ?_, ?_⟩
    · rw [tokens, tokensAt_getElem?, Nat.zero_add, bytes]
    · rw [bytes]
      exact isValid_width front
    · rw [stop]
      rw [← List.append_assoc] at front
      exact isValid_width front

end FootprintTemplate.Sexpr
