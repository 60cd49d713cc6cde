import FootprintTemplate.Proofs.Script.Expression
import FootprintTemplate.Proofs.Script.Steps

/-! Choices between two texts by the face. String literals stand for the texts that were written out,
and the expression around them has the text of the face as its value. -/
namespace FootprintTemplate.Script

open Text (Units unitsOfChars)

section Reading

theorem Begins.string (text : List Char) :
    ∃ exact, ∀ {braces : List Bool} {next rest : List Char} {tokens : List Token},
      Begins braces next tokens rest → Begins braces (stringLiteral text ++ next)
        (.text (unitsOfChars text) exact false :: tokens) rest := by
  obtain ⟨exact, read⟩ := readToken_stringLiteral text
  exact ⟨exact, fun more => more.token (opensToken_of rfl rfl (by decide) _) (read _) rfl⟩

/-- A choice between two texts, as it is read from their literals. -/
def chosenText (flipped plain : List Char) : Tree :=
  chosen (.constant (.text (unitsOfChars flipped))) (.constant (.text (unitsOfChars plain)))

theorem readTokens_choiceText (flipped plain : Units) (exact other : Bool) (tail : Lexemes) :
    readTokens (choiceTokens [.text flipped exact false, .mark ":", .text plain other false,
        .mark ")", .finish]) tail =
      some (scriptOf (chosen (.constant (.text flipped)) (.constant (.text plain)))) := by
  rfl

/-- Whatever the texts hold, the expression is read as the choice between them. -/
theorem parse_choiceText (flipped plain : List Char) :
    parse (choiceText (stringLiteral flipped) (stringLiteral plain)) =
      some (scriptOf (chosenText flipped plain)) := by
  obtain ⟨exact, one⟩ := Begins.string flipped
  obtain ⟨other, another⟩ := Begins.string plain
  have right := another (Begins.finish.parenthesis ')' (by decide))
  have left := one (right.operator ':' (by decide)).space
  obtain ⟨tail, parses⟩ := left.choice.parse (few_tokens (by simp [choiceTokens]))
  exact parses.trans (readTokens_choiceText _ _ _ _ tail)

end Reading

section Evaluating

open Interpreter (machine)

/-- The scope holds the face in the name that expressions choose by. -/
def Knows (store : Store) (scope : Nat) (flip : Bool) : Prop :=
  ∃ own binding, store.scopes[scope]? = some own ∧ own.bindings.lookup "flip" = some binding ∧
    binding.value = some (.truth flip)

variable {store : Store} {scope : Nat} {flip : Bool}

theorem resolve_flip (knows : Knows store scope flip) (m : Machine) :
    Names.resolve m scope "flip" store = (.ok (.binding scope), store) := by
  obtain ⟨own, binding, found, bound, -⟩ := knows
  change (Names.resolve.go m "flip" (store.scopes.size + 1) scope) store = _
  rw [Names.resolve.go, bind_ok (scope_of_getElem? found), bound]
  rfl

theorem read_flip (knows : Knows store scope flip) (m : Machine) :
    Names.read m (.binding scope) "flip" store = (.ok (.truth flip), store) := by
  obtain ⟨own, binding, found, bound, value⟩ := knows
  change (Run.scope scope >>= _) store = _
  rw [bind_ok (scope_of_getElem? found), bound]
  simp only [Option.bind_some, value]
  rfl

/-- The value of a choice is the text of the face. -/
theorem evaluate_chosenText (knows : Knows store scope flip) (flipped plain : List Char)
    (depth : Nat) : (machine (depth + 3)).evaluate scope (chosenText flipped plain) store =
      (.ok (.text (unitsOfChars (if flip then flipped else plain))), store) := by
  have name : (machine (depth + 1)).evaluate scope (.name "flip") store =
      (.ok (.truth flip), store) := by
    change (Names.resolve (machine depth) scope "flip" >>=
      fun place => Names.read (machine depth) place "flip") store = _
    rw [bind_ok (resolve_flip knows _), read_flip knows]
  change ((machine (depth + 1)).evaluate scope (.name "flip") >>= _) store = _
  rw [bind_ok name]
  cases flip <;> rfl

end Evaluating

end FootprintTemplate.Script
