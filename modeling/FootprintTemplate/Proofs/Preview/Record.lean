import FootprintTemplate.Preview.Render
import FootprintTemplate.Proofs.Script.Alike

/-! Object literals as records. A literal whose members have names of their own and plain values is
read from its text, one token after another; of members with one name the last one stays. -/
namespace FootprintTemplate.Preview

open Script (EndsName OpensToken Token readLexeme)

section Tokens

/-- After blanks and comments, a text starts with a token and goes on with the rest. -/
def NextToken (chars : List Char) (token : Token) (rest : List Char) : Prop :=
  (readLexeme chars).token = token ∧ (readLexeme chars).rest = rest

variable {chars rest : List Char} {token : Token}

theorem NextToken.unique {other : Token} {left : List Char} (one : NextToken chars token rest)
    (another : NextToken chars other left) : token = other ∧ rest = left :=
  ⟨one.1.symm.trans another.1, one.2.symm.trans another.2⟩

theorem nextToken_after {blanks text : List Char} (gap : ∀ c ∈ blanks, c = ' ' ∨ c = '\n')
    (read : Script.readToken (text ++ rest) = (token, rest)) (opens : OpensToken (text ++ rest)) :
    NextToken (blanks ++ (text ++ rest)) token rest := by
  obtain ⟨own, left⟩ := Script.readLexeme_blanks gap opens
  rw [read] at own left
  exact ⟨own, left⟩

theorem nextToken_of_read {text : List Char}
    (read : Script.readToken (text ++ rest) = (token, rest)) (opens : OpensToken (text ++ rest)) :
    NextToken (text ++ rest) token rest :=
  nextToken_after (nofun : ∀ c ∈ [], c = ' ' ∨ c = '\n') read opens

theorem NextToken.space (next : NextToken chars token rest) : NextToken (' ' :: chars) token rest :=
  next

theorem nextToken_word (word : String) (identifier : Script.isIdentifier word.toList = true)
    (ends : EndsName rest) : NextToken (word.toList ++ rest) (.name word false) rest := by
  have read := Script.readToken_name identifier ends
  rw [String.ofList_toList] at read
  exact nextToken_of_read read (Script.opensToken_name identifier rest)

theorem nextToken_bracket (mark : String)
    (bracket : mark ∈ [":", ",", "[", "]", "\x7b", "\x7d"]) (rest : List Char) :
    NextToken (mark.toList ++ rest) (.mark mark) rest :=
  nextToken_of_read (Script.readToken_bracket bracket rest) (Script.opensToken_bracket bracket rest)

end Tokens

section Literals

variable {α : Type} {reads : List Char → α → List Char → Prop}

/-- A member of a literal: its name, a colon and its value. -/
def ReadsMember (reads : List Char → α → List Char → Prop) (chars : List Char)
    (member : String × α) (rest : List Char) : Prop :=
  ∃ key named valued, NextToken chars key named ∧ key.member? = some member.1 ∧
    NextToken named (.mark ":") valued ∧ reads valued member.2 rest

/-- The members of a literal after its opening brace, up to the brace that closes it. -/
inductive ReadsMembers (reads : List Char → α → List Char → Prop) :
    List Char → List (String × α) → List Char → Prop where
  | close {chars rest : List Char} (brace : NextToken chars (.mark "\x7d") rest) :
      ReadsMembers reads chars [] rest
  | last {chars after rest : List Char} {member : String × α}
      (own : ReadsMember reads chars member after) (brace : NextToken after (.mark "\x7d") rest) :
      ReadsMembers reads chars [member] rest
  | member {chars after next rest : List Char} {member : String × α} {members : List (String × α)}
      (own : ReadsMember reads chars member after) (comma : NextToken after (.mark ",") next)
      (more : ReadsMembers reads next members rest) :
      ReadsMembers reads chars (member :: members) rest

/-- A value that is no literal of its own. One that is not defined is none. -/
def scalar? : Token → Option (Option Value)
  | .name "undefined" false => some none
  | .name "null" false => some (some .null)
  | .text units _ false => (Text.ofUnits? units).map fun text => some (.text text)
  | _ => none

def ReadsScalar (chars : List Char) (value : Option Value) (rest : List Char) : Prop :=
  ∃ token, NextToken chars token rest ∧ scalar? token = some value

theorem ReadsScalar.space {chars rest : List Char} {value : Option Value}
    (read : ReadsScalar chars value rest) : ReadsScalar (' ' :: chars) value rest := by
  obtain ⟨token, own, scalar⟩ := read
  exact ⟨token, own.space, scalar⟩

/-- The record that members make up, in the order in which the names stand last. Of members with one
name the last one counts; one that is not defined is left out, and one that names the prototype is no
member of the record. -/
def recordOf : List (String × Option Value) → List (String × Value)
  | [] => []
  | (name, value) :: rest =>
    if name == prototypeName || (rest.map Prod.fst).contains name then recordOf rest
    else (value.map (name, ·)).toList ++ recordOf rest

/-- A value, or a literal of plain values. -/
inductive ReadsValue (chars : List Char) : Option Value → List Char → Prop where
  | scalar {value : Option Value} {rest : List Char} (own : ReadsScalar chars value rest) :
      ReadsValue chars value rest
  | record {inside rest : List Char} {members : List (String × Option Value)}
      (brace : NextToken chars (.mark "\x7b") inside)
      (own : ReadsMembers ReadsScalar inside members rest) :
      ReadsValue chars (some (.record (recordOf members))) rest

theorem readsScalar_singleQuoted {text : String}
    (unbroken : Script.isUnbroken text.toList = true) (rest : List Char) :
    ReadsScalar (Script.singleQuoted text.toList ++ rest) (some (.text text)) rest := by
  obtain ⟨exact, read⟩ := Script.readToken_singleQuoted text.toList
  obtain ⟨opens, own⟩ := read rest
  rw [if_pos unbroken] at own
  exact ⟨_, nextToken_of_read own opens, congrArg (Option.map _) (Text.ofUnits?_units text)⟩

/-- A name in a line of its own, with a text in single quotes for its value. -/
theorem readsMember_singleQuoted {blanks : List Char} (gap : ∀ c ∈ blanks, c = ' ' ∨ c = '\n')
    (word : String) (identifier : Script.isIdentifier word.toList = true) {text : String}
    (unbroken : Script.isUnbroken text.toList = true) (rest : List Char) :
    ReadsMember ReadsValue
      (blanks ++ (word.toList ++ ':' :: ' ' :: (Script.singleQuoted text.toList ++ rest)))
      (word, some (.text text)) rest := by
  have named := Script.readToken_name identifier (Script.endsName_cons
    (by decide : ':' ∈ Script.punctuation) (' ' :: (Script.singleQuoted text.toList ++ rest)))
  rw [String.ofList_toList] at named
  exact ⟨_, _, _, nextToken_after gap named (Script.opensToken_name identifier _), rfl,
    nextToken_bracket ":" (by decide) _, .scalar (readsScalar_singleQuoted unbroken rest).space⟩

/-- A reader finds at most one value. -/
def IsFunctional (reads : List Char → α → List Char → Prop) : Prop :=
  ∀ chars value rest other left, reads chars value rest → reads chars other left →
    value = other ∧ rest = left

theorem IsFunctional.member (functional : IsFunctional reads) :
    IsFunctional (ReadsMember reads) := by
  rintro chars ⟨name, value⟩ rest ⟨nameToo, valueToo⟩ left
    ⟨key, named, valued, first, called, colon, own⟩
    ⟨keyToo, namedToo, valuedToo, firstToo, calledToo, colonToo, ownToo⟩
  obtain ⟨rfl, rfl⟩ := first.unique firstToo
  obtain ⟨-, rfl⟩ := colon.unique colonToo
  obtain ⟨rfl, rfl⟩ := functional _ _ _ _ _ own ownToo
  cases called.symm.trans calledToo
  exact ⟨rfl, rfl⟩

theorem ReadsMember.no_brace {chars after rest : List Char} {member : String × α}
    (read : ReadsMember reads chars member after) : ¬NextToken chars (.mark "\x7d") rest := by
  obtain ⟨key, named, valued, first, called, -⟩ := read
  intro brace
  cases (first.unique brace).1
  cases called

theorem NextToken.no_comma {chars rest left : List Char}
    (brace : NextToken chars (.mark "\x7d") rest) : ¬NextToken chars (.mark ",") left :=
  fun comma => absurd (brace.unique comma).1 (by decide)

theorem IsFunctional.members (functional : IsFunctional reads) :
    IsFunctional (ReadsMembers reads) := by
  intro chars members rest others left one another
  induction one generalizing others left with
  | close brace =>
    cases another with
    | close braceToo => exact ⟨rfl, (brace.unique braceToo).2⟩
    | last own | member own => exact absurd brace own.no_brace
  | last own brace =>
    cases another with
    | close braceToo => exact absurd braceToo own.no_brace
    | last ownToo braceToo =>
      obtain ⟨rfl, rfl⟩ := functional.member _ _ _ _ _ own ownToo
      exact ⟨rfl, (brace.unique braceToo).2⟩
    | member ownToo comma =>
      obtain ⟨-, rfl⟩ := functional.member _ _ _ _ _ own ownToo
      exact absurd comma brace.no_comma
  | member own comma more ih =>
    cases another with
    | close braceToo => exact absurd braceToo own.no_brace
    | last ownToo brace =>
      obtain ⟨-, rfl⟩ := functional.member _ _ _ _ _ own ownToo
      exact absurd comma brace.no_comma
    | member ownToo commaToo moreToo =>
      obtain ⟨rfl, rfl⟩ := functional.member _ _ _ _ _ own ownToo
      obtain ⟨-, rfl⟩ := comma.unique commaToo
      obtain ⟨rfl, rfl⟩ := ih _ _ moreToo
      exact ⟨rfl, rfl⟩

theorem isFunctional_scalar : IsFunctional ReadsScalar := by
  rintro chars value rest other left ⟨token, own, scalar⟩ ⟨tokenToo, ownToo, scalarToo⟩
  obtain ⟨rfl, rfl⟩ := own.unique ownToo
  cases scalar.symm.trans scalarToo
  exact ⟨rfl, rfl⟩

theorem ReadsScalar.no_brace {chars inside rest : List Char} {value : Option Value}
    (read : ReadsScalar chars value rest) : ¬NextToken chars (.mark "\x7b") inside := by
  obtain ⟨token, own, scalar⟩ := read
  intro brace
  cases (own.unique brace).1
  cases scalar

theorem isFunctional_value : IsFunctional ReadsValue := by
  intro chars value rest other left one another
  cases one with
  | scalar own =>
    cases another with
    | scalar ownToo => exact isFunctional_scalar _ _ _ _ _ own ownToo
    | record brace => exact absurd brace own.no_brace
  | record brace own =>
    cases another with
    | scalar ownToo => exact absurd brace ownToo.no_brace
    | record braceToo ownToo =>
      obtain ⟨-, rfl⟩ := brace.unique braceToo
      obtain ⟨rfl, rfl⟩ := isFunctional_scalar.members _ _ _ _ _ own ownToo
      exact ⟨rfl, rfl⟩

end Literals

end FootprintTemplate.Preview
