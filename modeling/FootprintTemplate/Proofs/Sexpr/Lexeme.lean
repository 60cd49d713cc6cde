import FootprintTemplate.Sexpr.Node
import FootprintTemplate.Sexpr.Token

/-! Texts of single tokens. A string runs to the first quote that no backslash stands right before;
what can stand inside it is told character by character. -/
namespace FootprintTemplate.Sexpr

/-- Quotes stand only right after backslashes. The given character stands in front. -/
def IsEscaped : Char → List Char → Prop
  | _, [] => True
  | before, c :: rest => (c = '"' → before = '\\') ∧ IsEscaped c rest

/-- A name or a number without quotes. -/
def IsBare (chars : List Char) : Prop :=
  chars ≠ [] ∧ ∀ c ∈ chars, isDelimiter c = false

instance (chars : List Char) : Decidable (IsBare chars) :=
  decidable_of_iff (chars ≠ [] ∧ chars.all (!isDelimiter ·) = true) (by simp [IsBare])

/-- What stands after an opening quote can be closed by one more quote. -/
def IsClosable (body : List Char) : Prop :=
  IsEscaped '"' body ∧ body.getLast? ≠ some '\\'

def quotedChars (body : List Char) : List Char :=
  '"' :: (body ++ ['"'])

def quoted (name : String) : String :=
  String.ofList (quotedChars name.toList)

@[simp]
theorem toList_quoted (name : String) : (quoted name).toList = quotedChars name.toList :=
  String.toList_ofList

theorem unquote_quoted (name : String) : unquote (quoted name) = name := by
  simp [unquote, quotedChars, unquotedChars]

/-- Texts that are one token. -/
inductive Lexeme : List Char → Prop where
  | opening : Lexeme ['(']
  | closing : Lexeme [')']
  | bare {chars : List Char} : IsBare chars → Lexeme chars
  | quoted {body : List Char} : IsClosable body → Lexeme (quotedChars body)

theorem IsEscaped.append {before : Char} {first second : List Char} :
    IsEscaped before (first ++ second) ↔
      IsEscaped before first ∧ IsEscaped (first.getLastD before) second := by
  induction first generalizing before with
  | nil => simp [IsEscaped]
  | cons c rest ih =>
    have last : (c :: rest).getLastD before = rest.getLastD c := by
      cases rest with
      | nil => rfl
      | cons => rfl
    simp only [List.cons_append, IsEscaped, ih, last, and_assoc]

theorem IsEscaped.of_no_quote {before : Char} {body : List Char} (plain : '"' ∉ body) :
    IsEscaped before body := by
  induction body generalizing before with
  | nil => trivial
  | cons c rest ih =>
    have parts := not_or.mp (mt List.mem_cons.mpr plain)
    exact ⟨fun quote => absurd quote.symm parts.1, ih parts.2⟩

theorem getLast?_cons_ne {c : Char} {body : List Char} (first : c ≠ '\\')
    (last : body.getLast? ≠ some '\\') : (body.reverse ++ [c]).head? ≠ some '\\' := by
  cases body.eq_nil_or_concat with
  | inl empty => simpa [empty] using first
  | inr shape => obtain ⟨before, d, rfl⟩ := shape; simpa using last

theorem IsBare.no_quote {chars : List Char} (bare : IsBare chars) : '"' ∉ chars := by
  intro quote
  have ends := bare.2 '"' quote
  contradiction

theorem isUnclosed_quoted {body : List Char} (closable : IsClosable body) :
    Token.isUnclosed (quotedChars body) = false := by
  have shape : (body ++ ['"']).reverse = '"' :: body.reverse := by simp
  have last : body.reverse.head? ≠ some '\\' := by simpa using closable.2
  simp only [quotedChars, Token.isUnclosed, shape]
  cases h : body.reverse with
  | nil => rfl
  | cons c rest =>
    rw [h] at last
    by_cases slash : c = '\\'
    · exact absurd (congrArg some slash) last
    · simp [slash]

theorem isUnclosed_open {body : List Char} (escaped : IsEscaped '"' body) :
    Token.isUnclosed ('"' :: body) = true := by
  simp only [Token.isUnclosed]
  cases body.eq_nil_or_concat with
  | inl empty => subst empty; rfl
  | inr shape =>
    obtain ⟨before, c, rfl⟩ := shape
    rw [List.concat_eq_append] at escaped ⊢
    have last := (IsEscaped.append.mp escaped).2.1
    rw [List.reverse_append]
    cases before.eq_nil_or_concat with
    | inl empty =>
      subst empty
      by_cases quote : c = '"'
      · exact absurd (last quote) (by decide)
      · simp [quote]
    | inr shape =>
      obtain ⟨earlier, d, rfl⟩ := shape
      by_cases quote : c = '"'
      · have slash : d = '\\' := by simpa using last quote
        simp [quote, slash]
      · simp [quote]

end FootprintTemplate.Sexpr
