import FootprintTemplate.Script.Literal
import FootprintTemplate.Proofs.Sexpr.Grammar
import FootprintTemplate.Proofs.Sexpr.Scanning

/-! Atoms that a script prints. What a template literal makes of an atom, a name between quotes and
a string literal are each the text of one atom, apart from strings that a backslash keeps open. -/
namespace FootprintTemplate.Sexpr

/-- A bare atom, or a string. The last quote of a string may be one that does not close it. -/
inductive IsAtomText : List Char → Prop where
  | bare {chars : List Char} : IsBare chars → IsAtomText chars
  | quoted {body : List Char} : IsEscaped '"' body → IsAtomText (quotedChars body)

theorem IsAtomText.isWord {text : String} (atom : IsAtomText text.toList) : IsWord text := by
  generalize shape : text.toList = chars at atom
  constructor
  · rintro rfl
    cases shape
    cases atom with
    | bare bare => exact absurd (bare.2 '(' List.mem_cons_self) (by decide)
  · rintro rfl
    cases shape
    cases atom with
    | bare bare => exact absurd (bare.2 ')' List.mem_cons_self) (by decide)

theorem IsAtomText.lexeme {chars : List Char} (atom : IsAtomText chars)
    (closed : Token.isUnclosed chars = false) : Lexeme chars := by
  cases atom with
  | bare bare => exact .bare bare
  | @quoted body escaped =>
    refine .quoted ⟨escaped, fun last => ?_⟩
    have stays : IsEscaped '"' (body ++ ['"']) := by
      refine IsEscaped.append.mpr ⟨escaped, fun _ => ?_, trivial⟩
      rw [List.getLastD_eq_getLast?, last, Option.getD_some]
    rw [quotedChars, isUnclosed_open stays] at closed
    contradiction

theorem Lexeme.isAtomText {text : String} (lexeme : Lexeme text.toList) (word : IsWord text) :
    IsAtomText text.toList := by
  generalize shape : text.toList = chars at lexeme
  cases lexeme with
  | opening => exact absurd (String.toList_inj.mp shape) word.1
  | closing => exact absurd (String.toList_inj.mp shape) word.2
  | bare bare => exact .bare bare
  | quoted closable => exact .quoted closable.1

theorem unquotedChars_quotedChars (body : List Char) : unquotedChars (quotedChars body) = body := by
  simp [quotedChars, unquotedChars]

theorem IsBare.unquotedChars {chars : List Char} (bare : IsBare chars) :
    unquotedChars chars = chars := by
  have plain := bare.no_quote
  unfold Sexpr.unquotedChars
  split
  · exact absurd List.mem_cons_self plain
  · rfl

theorem unquotedChars_subset (chars : List Char) : unquotedChars chars ⊆ chars := by
  unfold unquotedChars
  split
  · rename_i rest
    split
    · rename_i inner shape
      intro c member
      have inside : c ∈ rest.reverse := by
        rw [shape]
        exact List.mem_cons_of_mem _ (List.mem_reverse.mp member)
      exact List.mem_cons_of_mem _ (List.mem_reverse.mp inside)
    · exact List.Subset.refl _
  · exact List.Subset.refl _

theorem IsAtomText.unquotedChars {chars : List Char} (atom : IsAtomText chars) :
    IsEscaped '"' (unquotedChars chars) := by
  cases atom with
  | bare bare =>
    rw [bare.unquotedChars]
    exact .of_no_quote bare.no_quote
  | quoted escaped => rwa [unquotedChars_quotedChars]

theorem IsEscaped.change {before other : Char} {chars : List Char}
    (escaped : IsEscaped before chars) (plain : before ≠ '\\') : IsEscaped other chars := by
  cases chars with
  | nil => trivial
  | cons c rest => exact ⟨fun quote => absurd (escaped.1 quote) plain, escaped.2⟩

end FootprintTemplate.Sexpr

namespace FootprintTemplate.Script

open Sexpr (IsAtomText IsBare IsEscaped Lexeme quotedChars)

section LineFeeds

theorem lineFeeds_cons {c : Char} (other : c ≠ '\r') (rest : List Char) :
    lineFeeds (c :: rest) = c :: lineFeeds rest := by
  simp [lineFeeds, other]

theorem lineFeeds_eq_self {chars : List Char} (plain : '\r' ∉ chars) : lineFeeds chars = chars := by
  induction chars with
  | nil => rfl
  | cons c rest ih =>
    have parts := not_or.mp (mt List.mem_cons.mpr plain)
    rw [lineFeeds_cons (Ne.symm parts.1), ih parts.2]

theorem lineFeeds_concat {c : Char} (other : c ≠ '\r') (noFeed : c ≠ '\n') (chars : List Char) :
    lineFeeds (chars ++ [c]) = lineFeeds chars ++ [c] := by
  fun_induction lineFeeds chars with
  | case1 => exact lineFeeds_cons other []
  | case2 rest ih => rw [List.cons_append, List.cons_append, lineFeeds, ih]; rfl
  | case3 d rest alone ih =>
    rw [List.cons_append, lineFeeds, ih]
    · rfl
    · intro others carriage feed
      cases rest with
      | nil => exact noFeed (List.cons.inj feed).1
      | cons e more => exact alone more carriage (congrArg (· :: more) (List.cons.inj feed).1)

theorem lineFeeds_quotedChars (body : List Char) :
    lineFeeds (quotedChars body) = quotedChars (lineFeeds body) := by
  rw [quotedChars, lineFeeds_cons (by decide), lineFeeds_concat (by decide) (by decide)]
  rfl

theorem isEscaped_lineFeeds {before : Char} {chars : List Char} (escaped : IsEscaped before chars) :
    IsEscaped before (lineFeeds chars) := by
  fun_induction lineFeeds chars generalizing before with
  | case1 => trivial
  | case2 rest ih => exact ⟨fun quote => absurd quote (by decide), ih escaped.2.2⟩
  | case3 c rest alone ih =>
    split
    · rename_i feed
      cases beq_iff_eq.mp feed
      exact ⟨fun quote => absurd quote (by decide), (ih escaped.2).change (by decide)⟩
    · exact ⟨escaped.1, ih escaped.2⟩

theorem isBare_no_return {chars : List Char} (bare : IsBare chars) : '\r' ∉ chars :=
  fun member => absurd (bare.2 '\r' member) (by decide)

theorem isAtomText_lineFeeds {chars : List Char} (atom : IsAtomText chars) :
    IsAtomText (lineFeeds chars) := by
  cases atom with
  | bare bare =>
    rw [lineFeeds_eq_self (isBare_no_return bare)]
    exact .bare bare
  | quoted escaped =>
    rw [lineFeeds_quotedChars]
    exact .quoted (isEscaped_lineFeeds escaped)

end LineFeeds

section Literals

theorem hexDigit_ne_quote (n : Nat) : hexDigit n ≠ '"' :=
  Nat.digitChar_ne '"' (by decide)

theorem isEscaped_stringChar {before : Char} (c : Char) : IsEscaped before (stringChar c) := by
  unfold stringChar
  split
  case h_8 other _ _ _ _ _ _ =>
    split
    · simp [IsEscaped, hexDigit_ne_quote]
    · exact ⟨fun quote => absurd quote other, trivial⟩
  all_goals simp [IsEscaped]

theorem isEscaped_stringChars (before : Char) (text : List Char) :
    IsEscaped before (text.flatMap stringChar) := by
  induction text generalizing before with
  | nil => trivial
  | cons c rest ih => exact IsEscaped.append.mpr ⟨isEscaped_stringChar c, ih _⟩

theorem isAtomText_stringLiteral (text : List Char) : IsAtomText (stringLiteral text) :=
  .quoted (isEscaped_stringChars '"' text)

theorem getLast?_stringChar {c : Char} (other : c ≠ '\\') :
    ∃ last, (stringChar c).getLast? = some last ∧ last ≠ '\\' := by
  have hex (n : Nat) : hexDigit n ≠ '\\' := Nat.digitChar_ne '\\' (by decide)
  unfold stringChar
  split
  case h_2 => exact absurd rfl other
  case h_8 =>
    split
    · exact ⟨_, rfl, hex _⟩
    · exact ⟨_, rfl, other⟩
  all_goals exact ⟨_, rfl, by decide⟩

theorem lexeme_stringLiteral {text : List Char} (last : text.getLast? ≠ some '\\') :
    Sexpr.Lexeme (stringLiteral text) := by
  refine .quoted ⟨isEscaped_stringChars '"' text, ?_⟩
  cases text.eq_nil_or_concat with
  | inl empty => simp [empty]
  | inr shape =>
    obtain ⟨before, c, rfl⟩ := shape
    have own : c ≠ '\\' := by simpa using last
    obtain ⟨ending, found, other⟩ := getLast?_stringChar own
    rw [List.concat_eq_append, List.flatMap_append, List.flatMap_singleton, List.getLast?_append,
      found, Option.some_or]
    exact fun same => other (Option.some.inj same)

end Literals

end FootprintTemplate.Script
