import FootprintTemplate.Proofs.Script.Placeholders

/-! What readers of scripts make of tokens. An operand before a closing token is a whole value, and what
is read one after another makes a list. -/
namespace FootprintTemplate.Script

open Reader
open Text (Units units)

section Lists

variable {α β : Type} {cursor middle after : Cursor}

theorem Reader.orElse_some {read other : Reader α} {value : α}
    (found : read cursor = some (value, after)) : (read <|> other) cursor = some (value, after) := by
  change (read cursor).orElse _ = _
  rw [found]
  rfl

theorem Reader.orElse_none {read : Reader α} (failed : read cursor = none) (other : Reader α) :
    (read <|> other) cursor = other cursor := by
  change (read cursor).orElse _ = _
  rw [failed]
  rfl

/-- The items that a repeated reader finds, before it finds none. -/
def Yields (reader : Reader (Option α)) (cursor : Cursor) (found : List α) (after : Cursor) : Prop :=
  ∀ fuel, found.length < fuel → items.go reader fuel cursor = some (found, after)

theorem Yields.nil {reader : Reader (Option α)} (none : reader cursor = some (none, after)) :
    Yields reader cursor [] after := by
  intro fuel enough
  cases fuel with
  | zero => cases enough
  | succ fuel => exact Reader.bind_some none _

theorem Yields.cons {reader : Reader (Option α)} {item : α} {rest : List α}
    (one : reader cursor = some (some item, middle)) (more : Yields reader middle rest after) :
    Yields reader cursor (item :: rest) after := by
  intro fuel enough
  cases fuel with
  | zero => cases enough
  | succ fuel =>
    exact (Reader.bind_some one _).trans
      (Reader.bind_some (more fuel (Nat.lt_of_succ_lt_succ enough)) _)

theorem Yields.items {reader : Reader (Option α)} {found : List α}
    (yields : Yields reader cursor found after) (few : found.length < maxParts) :
    Reader.items reader cursor = some (found, after) :=
  yields maxParts few

theorem Reader.items_none {reader : Reader (Option α)} (failed : reader cursor = none) :
    Reader.items reader cursor = none :=
  Reader.bind_none failed _

end Lists

section Marks

variable {α : Type} {cursor after : Cursor} {mark : String}

theorem isMark_other (other : cursor.lexemes.token ≠ .mark mark) :
    isMark mark cursor = some (false, cursor) := by
  have apart : (cursor.lexemes.token == .mark mark) = false := beq_false_of_ne other
  change some (cursor.lexemes.token == .mark mark, cursor) = _
  rw [apart]

theorem takesMark_other (other : cursor.lexemes.token ≠ .mark mark) :
    takesMark mark cursor = some (false, cursor) :=
  (Reader.bind_some (isMark_other other) _).trans rfl

/-- One item of a list that goes up to a closing mark. -/
def listedItem (close : String) (item : Reader α) : Reader (Option α) := do
  if ← takesMark close then return none
  let item ← item
  if !(← isMark close) then Reader.mark ","
  return some item

theorem listedItem_some {close : String} {item : Reader α} {value : α}
    (other : cursor.lexemes.token ≠ .mark close) (found : item cursor = some (value, after)) :
    listedItem close item cursor = (do
      if !(← isMark close) then Reader.mark ","
      return some value : Reader (Option α)) after := by
  refine (Reader.bind_some (takesMark_other other) _).trans ?_
  exact Reader.bind_some found _

end Marks

section Operands

/-- Tokens before which a value is at its end. -/
def closers : List Token :=
  [.mark ")", .mark "\x7d", .mark ";", .mark ",", .name "module" false]

/-- The setting of a script, or of the body of a routine in it. -/
def settingOf (returns : Bool) : Setting :=
  { returns }

/-- A cursor before a token. -/
def before (token : Token) (crossed : Bool) (tail : Lexemes) (hoisted secrets : List String) :
    Cursor :=
  ⟨ofLined [(token, crossed)] tail, hoisted, secrets⟩

variable {returns : Bool} {cursor : Cursor} {value : Tree} {closer : Token} {crossed : Bool}
  {tail : Lexemes} {hoisted secrets : List String} {g : Grammar}
  {readClass : Setting → Reader Tree}

theorem readSuffixes_closed (closes : closer ∈ closers) (fuel : Nat) :
    readSuffixes g (settingOf returns) true (fuel + 1) false value
      (before closer crossed tail hoisted secrets) =
        some (value, before closer crossed tail hoisted secrets) := by
  simp only [closers, List.mem_cons, List.not_mem_nil, or_false] at closes
  obtain rfl | rfl | rfl | rfl | rfl := closes <;> rfl

theorem readStep_closed (closes : closer ∈ closers)
    (operand : readOperand g readClass true (settingOf returns) cursor =
      some (value, before closer crossed tail hoisted secrets)) :
    readUnary.readStep g readClass (settingOf returns) cursor =
      some (value, before closer crossed tail hoisted secrets) := by
  refine (Reader.bind_some operand _).trans ?_
  simp only [closers, List.mem_cons, List.not_mem_nil, or_false] at closes
  obtain rfl | rfl | rfl | rfl | rfl := closes <;> cases crossed <;> rfl

theorem readBinary_closed (closes : closer ∈ closers)
    (operand : g.unary (settingOf returns) cursor =
      some (value, before closer crossed tail hoisted secrets)) :
    readBinary g 0 (settingOf returns) cursor =
      some (value, before closer crossed tail hoisted secrets) := by
  refine (Reader.bind_some operand _).trans ?_
  simp only [closers, List.mem_cons, List.not_mem_nil, or_false] at closes
  obtain rfl | rfl | rfl | rfl | rfl := closes <;> rfl

theorem readAssigned_closed (closes : closer ∈ closers)
    (operand : g.binary 0 (settingOf returns) cursor =
      some (value, before closer crossed tail hoisted secrets)) :
    readAssigned g (settingOf returns) cursor =
      some (value, before closer crossed tail hoisted secrets) := by
  refine (Reader.bind_some operand _).trans ?_
  simp only [closers, List.mem_cons, List.not_mem_nil, or_false] at closes
  obtain rfl | rfl | rfl | rfl | rfl := closes <;> rfl

theorem readSequence_closed (closes : closer ∈ closers) (other : closer ≠ .mark ",")
    (assignment : g.assignment (settingOf returns) cursor =
      some (value, before closer crossed tail hoisted secrets)) :
    readSequence g (settingOf returns) cursor =
      some (value, before closer crossed tail hoisted secrets) := by
  refine (Reader.bind_some assignment _).trans ?_
  simp only [closers, List.mem_cons, List.not_mem_nil, or_false] at closes
  obtain rfl | rfl | rfl | rfl | rfl := closes
  all_goals first | rfl | exact absurd rfl other

/-- An operand up to a closing token, that no operator stands before, is a value. -/
theorem readAssigned_operand (depth : Nat) (closes : closer ∈ closers)
    (plain : readUnary (grammar depth) (Script.readClass (grammar depth) true) (settingOf returns)
      cursor = readUnary.readStep (grammar depth) (Script.readClass (grammar depth) true)
        (settingOf returns) cursor)
    (operand : readOperand (grammar depth) (Script.readClass (grammar depth) true) true
      (settingOf returns) cursor = some (value, before closer crossed tail hoisted secrets)) :
    readAssigned (grammar (depth + 2)) (settingOf returns) cursor =
      some (value, before closer crossed tail hoisted secrets) := by
  have unary : (grammar (depth + 1)).unary (settingOf returns) cursor = _ :=
    plain.trans (readStep_closed closes operand)
  have binary : (grammar (depth + 2)).binary 0 (settingOf returns) cursor = _ :=
    readBinary_closed closes unary
  exact readAssigned_closed closes binary

end Operands

end FootprintTemplate.Script
