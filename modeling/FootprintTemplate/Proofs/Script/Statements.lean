import FootprintTemplate.Proofs.Script.Readers

/-! Statements of a script that are read from their tokens: those that build a list of texts line by
line, and the records that a module exports. -/
namespace FootprintTemplate.Script

open Reader
open Text (Units units)

section Tokens

def word (text : String) (crossed : Bool := false) : Token × Bool :=
  (.name text false, crossed)

def sign (mark : String) (crossed : Bool := false) : Token × Bool :=
  (.mark mark, crossed)

/-- A string without escapes. -/
def quote (text : Units) (crossed : Bool := false) : Token × Bool :=
  (.text text true false, crossed)

/-- A cursor before some tokens. -/
abbrev Cursor.at (tokens : List (Token × Bool)) (tail : Lexemes) (hoisted secrets : List String) :
    Cursor :=
  ⟨ofLined tokens tail, hoisted, secrets⟩

end Tokens

section Members

variable {g : Grammar} {returns crossed : Bool} {token : Token} {key : Units} {value : Tree}
  {inner tail : Lexemes} {hoisted secrets : List String} {after : Cursor}

/-- The token of a member's name. -/
inductive IsKeyToken : Token → Units → Prop where
  | name (text : String) : IsKeyToken (.name text false) (units text)
  | text (text : Units) (exact : Bool) : IsKeyToken (.text text exact false) text

/-- A member of a record. One with the name of the prototype takes its place. -/
def fieldTree (key : Units) (value : Tree) : Tree :=
  if key == units "__proto__" then .prototype value else .field (.fixedKey key) value

theorem takesModifier_field (modifier : String) (cursor : Cursor)
    (shape : cursor = .at [(token, crossed), sign ":"] inner hoisted secrets) :
    takesModifier modifier cursor = some (false, cursor) := by
  subst shape
  have own (cursor : Cursor) : isWord modifier cursor =
      some (cursor.lexemes.token == .name modifier false, cursor) := rfl
  refine (Reader.bind_some (own _) _).trans ?_
  cases (Lexemes.token (ofLined [(token, crossed), sign ":"] inner) == .name modifier false) <;> rfl

theorem readModifiers_field (isKey : IsKeyToken token key) (cursor : Cursor)
    (shape : cursor = .at [(token, crossed), sign ":"] inner hoisted secrets) :
    readModifiers cursor = some (⟨false, false, none⟩, cursor) := by
  refine (Reader.bind_some (takesModifier_field "get" cursor shape) _).trans ?_
  refine (Reader.bind_some (takesModifier_field "set" cursor shape) _).trans ?_
  refine (Reader.bind_some (takesModifier_field "async" cursor shape) _).trans ?_
  have noStar : cursor.lexemes.token ≠ .mark "*" := by
    subst shape
    cases isKey <;> exact nofun
  exact (Reader.bind_some (takesMark_other noStar) _).trans rfl

theorem readMember_field (isKey : IsKeyToken token key)
    (assignment : g.assignment (settingOf returns) ⟨inner, hoisted, secrets⟩ = some (value, after)) :
    readMember g (settingOf returns) (.at [(token, crossed), sign ":"] inner hoisted secrets) =
      some (fieldTree key value, after) := by
  have noSpread : Lexemes.token (ofLined [(token, crossed), sign ":"] inner) ≠ .mark "..." := by
    cases isKey <;> exact nofun
  have named : readKey g (settingOf returns)
      (.at [(token, crossed), sign ":"] inner hoisted secrets) =
        some (.fixedKey key, .at [sign ":"] inner hoisted secrets) := by
    cases isKey <;> rfl
  refine (Reader.bind_some (takesMark_other noSpread) _).trans ?_
  refine (Reader.bind_some (readModifiers_field isKey _ rfl) _).trans ?_
  refine (Reader.bind_some (show Reader.token _ = some (token, _) from rfl) _).trans ?_
  refine (Reader.bind_some named _).trans ?_
  refine (Reader.bind_some (show isMark "(" _ = some (false, _) from rfl) _).trans ?_
  refine (Reader.bind_some (show takesMark ":" _ = some (true, ⟨inner, hoisted, secrets⟩) from rfl)
    _).trans ?_
  refine (Reader.bind_some assignment _).trans ?_
  unfold fieldTree
  dsimp only
  split <;> rfl

/-- A member before a comma. -/
theorem listed_field (crossed : Bool) (isKey : IsKeyToken token key)
    (assignment : g.assignment (settingOf returns) ⟨inner, hoisted, secrets⟩ =
      some (value, before (.mark ",") false tail hoisted secrets)) :
    listedItem "\x7d" (readMember g (settingOf returns))
      (.at [(token, crossed), sign ":"] inner hoisted secrets) =
        some (some (fieldTree key value), ⟨tail, hoisted, secrets⟩) := by
  have goesOn : Lexemes.token (ofLined [(token, crossed), sign ":"] inner) ≠ .mark "\x7d" := by
    cases isKey <;> exact nofun
  exact (listedItem_some goesOn (readMember_field isKey assignment)).trans rfl

/-- The last member of a record. -/
theorem listed_lastField (crossed line : Bool) (isKey : IsKeyToken token key)
    (assignment : g.assignment (settingOf returns) ⟨inner, hoisted, secrets⟩ =
      some (value, before (.mark "\x7d") line tail hoisted secrets)) :
    listedItem "\x7d" (readMember g (settingOf returns))
      (.at [(token, crossed), sign ":"] inner hoisted secrets) =
        some (some (fieldTree key value), before (.mark "\x7d") line tail hoisted secrets) := by
  have goesOn : Lexemes.token (ofLined [(token, crossed), sign ":"] inner) ≠ .mark "\x7d" := by
    cases isKey <;> exact nofun
  exact (listedItem_some goesOn (readMember_field isKey assignment)).trans rfl

end Members

section Records

variable {returns crossed line : Bool} {members : List Tree} {inner tail : Lexemes}
  {hoisted secrets : List String} {closer : Token} {after : Cursor} {base : Nat}

/-- A record after its opening brace, with values that are nested so deep at most. -/
def ReadsRecord (base : Nat) (returns : Bool) (inner : Lexemes) (members : List Tree)
    (after : Cursor) (hoisted secrets : List String) : Prop :=
  ∀ depth, readRecord (grammar (depth + base)) (settingOf returns) ⟨inner, hoisted, secrets⟩ =
    some (.record members, after)

theorem ReadsRecord.readOperand (record : ReadsRecord base returns inner members
      (before closer line tail hoisted secrets) hoisted secrets)
    (closes : closer ∈ closers) (depth : Nat) :
    readOperand (grammar (depth + base)) (readClass (grammar (depth + base)) true) true
      (settingOf returns) (.at [sign "\x7b" crossed] inner hoisted secrets) =
        some (.record members, before closer line tail hoisted secrets) :=
  (Reader.bind_some (record depth) _).trans (readSuffixes_closed closes _)

/-- What is no target of an assignment is none in parentheses or braces either. -/
theorem ReadsRecord.no_target (record : ReadsRecord base returns inner members
      (before closer line tail hoisted secrets) hoisted secrets)
    (closes : closer ∈ closers)
    (noParts : ∀ depth, readParts (grammar (depth + base)) false (settingOf returns)
      (.at [sign "\x7b" crossed] inner hoisted secrets) = none) (depth : Nat) :
    (grammar (depth + base + 1)).target false (settingOf returns)
      (.at [sign "\x7b" crossed] inner hoisted secrets) = none := by
  have place : readPlace (grammar (depth + base)) (readClass (grammar (depth + base)) true) false
      (settingOf returns) (.at [sign "\x7b" crossed] inner hoisted secrets) = none :=
    (Reader.bind_some (record.readOperand closes depth) _).trans rfl
  exact (Reader.orElse_none (Reader.bind_none (noParts depth) _) _).trans place

theorem ReadsRecord.assignment (record : ReadsRecord base returns inner members
      (before closer line tail hoisted secrets) hoisted secrets)
    (closes : closer ∈ closers)
    (noParts : ∀ depth, readParts (grammar (depth + base)) false (settingOf returns)
      (.at [sign "\x7b" crossed] inner hoisted secrets) = none) (depth : Nat) :
    (grammar (depth + base + 3)).assignment (settingOf returns)
      (.at [sign "\x7b" crossed] inner hoisted secrets) =
        some (.record members, before closer line tail hoisted secrets) := by
  have noTarget : readPartsAssigned (grammar (depth + base + 2)) (settingOf returns)
      (.at [sign "\x7b" crossed] inner hoisted secrets) = none := by
    have target := record.no_target closes noParts (depth + 1)
    rw [Nat.add_right_comm depth 1 base] at target
    exact Reader.bind_none target _
  exact (Reader.orElse_none noTarget _).trans
    (readAssigned_operand _ closes rfl (record.readOperand closes depth))

/-- A record is no target if its first value is none. -/
theorem readParts_none {g : Grammar} {token : Token} {key : Units} (crossed own : Bool)
    (isKey : IsKeyToken token key)
    (noTarget : g.target false (settingOf returns) ⟨inner, hoisted, secrets⟩ = none) :
    readParts g false (settingOf returns)
      (.at [sign "\x7b" crossed, (token, own), sign ":"] inner hoisted secrets) = none := by
  let field : Cursor := .at [(token, own), sign ":"] inner hoisted secrets
  have other (mark : String) : field.lexemes.token ≠ .mark mark := by
    cases isKey <;> exact nofun
  have named : readKey g (settingOf returns) field =
      some (.fixedKey key, .at [sign ":"] inner hoisted secrets) := by
    cases isKey <;> rfl
  have noField : readField g false (settingOf returns) field = none := by
    refine (Reader.bind_some (show Reader.token field = some (token, field) from rfl) _).trans ?_
    refine (Reader.bind_some named _).trans ?_
    refine (Reader.bind_some (show takesMark ":" _ = some (true, ⟨inner, hoisted, secrets⟩) from rfl)
      _).trans ?_
    exact Reader.bind_none (Reader.bind_none noTarget _) _
  refine (Reader.bind_some (show takesMark "\x7b" _ = some (true, field) from rfl) _).trans ?_
  refine Reader.bind_none (Reader.items_none ?_) _
  refine (Reader.bind_some (isMark_other (other "\x7d")) _).trans ?_
  refine (Reader.bind_some (isMark_other (other "...")) _).trans ?_
  exact Reader.bind_none noField _

end Records

section Lines

variable {depth : Nat} {tail : Lexemes} {hoisted secrets : List String}

/-- The call that adds a value to the list of lines. -/
def pushTree (value : Tree) : Tree :=
  .expression (.call (.member (.name "fp") (wordKey "push")) [value])

def pushTokens (crossed : Bool) : List (Token × Bool) :=
  [(.name "fp" false, crossed), (.mark ".", false), (.name "push" false, false),
    (.mark "(", false)]

/-- The tokens of a template literal, and the tree that they are read as in a routine. -/
structure IsTemplate (tokens : List (Token × Bool)) (value : Tree) : Prop where
  head : ∃ run written final crossed more, tokens = (.template run written final, crossed) :: more
  reads : ∀ depth tail hoisted secrets,
    readTemplateValue (grammar (depth + 40)) (settingOf true)
      ⟨ofLined tokens tail, hoisted, secrets⟩ = some (value, ⟨tail, hoisted, secrets⟩)

theorem IsTemplate.readAssignment {tokens : List (Token × Bool)} {value : Tree}
    (template : IsTemplate tokens value) {closer : Token} (closes : closer ∈ closers)
    (crossed : Bool) :
    (grammar (depth + 43)).assignment (settingOf true)
      ⟨ofLined (tokens ++ [(closer, crossed)]) tail, hoisted, secrets⟩ =
        some (value, before closer crossed tail hoisted secrets) := by
  obtain ⟨⟨run, written, final, line, more, rfl⟩, reads⟩ := template
  have value := reads depth (ofLined [(closer, crossed)] tail) hoisted secrets
  rw [ofLined_append]
  refine readAssigned_operand (depth + 40) closes rfl ?_
  exact (Reader.bind_some value _).trans (readSuffixes_closed closes _)

theorem readArguments_one {returns : Bool} {cursor : Cursor} {g : Grammar} {value : Tree}
    {crossed : Bool} (open' : cursor.lexemes.token ≠ .mark ")")
    (single : cursor.lexemes.token ≠ .mark "...")
    (assignment : g.assignment (settingOf returns) cursor =
      some (value, before (.mark ")") crossed tail hoisted secrets)) :
    readArguments g (settingOf returns) cursor = some ([value], ⟨tail, hoisted, secrets⟩) := by
  have item : readItem g (settingOf returns) cursor =
      some (value, before (.mark ")") crossed tail hoisted secrets) :=
    (Reader.bind_some (takesMark_other single) _).trans assignment
  have one : listedItem ")" (readItem g (settingOf returns)) cursor =
      some (some value, before (.mark ")") crossed tail hoisted secrets) :=
    (listedItem_some open' item).trans rfl
  exact (Yields.cons one (.nil rfl)).items (Nat.le_of_ble_eq_true rfl)

theorem readOperand_push {argument : Lexemes} (crossed : Bool) :
    readOperand (grammar depth) (readClass (grammar depth) true) true (settingOf true)
      ⟨ofLined (pushTokens crossed) argument, hoisted, secrets⟩ =
        (readArguments (grammar depth) (settingOf true) >>= fun values =>
          readSuffixes (grammar depth) (settingOf true) true (maxParts - 2) false
            (.call (.member (.name "fp") (wordKey "push")) values)) ⟨argument, hoisted, secrets⟩ :=
  rfl

/-- A statement that starts with a member of a variable is a value. -/
theorem readStatement_member {g : Grammar} {returns : Bool} {name : String} {inner : Lexemes}
    {value : Tree} {after : Cursor} (known : name = "fp" ∨ name = "module") (crossed : Bool)
    (sequence : readSequence g (settingOf returns)
      (.at [word name crossed, sign "."] inner hoisted secrets) = some (value, after)) :
    readStatement g true (settingOf returns)
      (.at [word name crossed, sign "."] inner hoisted secrets) =
        (endStatement >>= fun _ => pure (.expression value)) after := by
  let start (name : String) : Cursor := .at [word name crossed, sign "."] inner hoisted secrets
  obtain rfl | rfl := known
  all_goals
    refine (Reader.bind_some (show readBlockDeclaration _ _ _ = some (none, start _) from rfl)
      _).trans ?_
    refine (Reader.bind_some (show token _ = some (.name _ false, start _) from rfl) _).trans ?_
    refine (Reader.bind_some (show labelAhead _ _ = some (none, start _) from rfl) _).trans ?_
    refine (Reader.bind_some (show ahead _ _ = some (none, start _) from rfl) _).trans ?_
    refine (Reader.bind_some (show isMark "\x7b" _ = some (false, start _) from rfl) _).trans ?_
    refine (Reader.bind_some (show isWord "function" _ = some (false, start _) from rfl) _).trans ?_
    refine (Reader.bind_some (show isWord "class" _ = some (false, start _) from rfl) _).trans ?_
    refine (Reader.bind_some (show isAsyncRoutine _ = some (false, start _) from rfl) _).trans ?_
    refine (Reader.bind_some (show require _ _ = some ((), start _) from rfl) _).trans ?_
    exact Reader.bind_some sequence _

/-- What starts with a member of a variable is no routine. -/
theorem readArrow_member {g : Grammar} {returns : Bool} {name : String} {inner : Lexemes}
    (known : name = "fp" ∨ name = "module") (crossed : Bool) :
    readArrow g (settingOf returns) (.at [word name crossed, sign "."] inner hoisted secrets) =
      none := by
  let next : Cursor := .at [sign "."] inner hoisted secrets
  obtain rfl | rfl := known
  all_goals
    refine (Reader.orElse_none (Reader.bind_none rfl _) _).trans ?_
    refine (Reader.bind_some (show readArrowParameters _ _ _ = some (_, next) from rfl) _).trans ?_
    exact Reader.bind_none (show takesArrow next = none from rfl) _

/-- A value that is added to the lines. -/
theorem readStatement_push {argument : Lexemes} {value : Tree} (crossed : Bool)
    (open' : argument.token ≠ .mark ")") (single : argument.token ≠ .mark "...")
    (assignment : (grammar depth).assignment (settingOf true) ⟨argument, hoisted, secrets⟩ =
      some (value, before (.mark ")") false (ofLined [(.mark ";", false)] tail) hoisted secrets)) :
    (grammar (depth + 4)).statement true (settingOf true)
      ⟨ofLined (pushTokens crossed) argument, hoisted, secrets⟩ =
        some (pushTree value, ⟨tail, hoisted, secrets⟩) := by
  let start : Cursor := ⟨ofLined (pushTokens crossed) argument, hoisted, secrets⟩
  let value' : Tree := .call (.member (.name "fp") (wordKey "push")) [value]
  let after : Cursor := before (.mark ";") false tail hoisted secrets
  have operand : readOperand (grammar depth) (readClass (grammar depth) true) true (settingOf true)
      start = some (value', after) :=
    (readOperand_push crossed).trans ((Reader.bind_some (readArguments_one open' single assignment) _).trans
      (readSuffixes_closed (by decide) _))
  have assigned : readAssigned (grammar (depth + 2)) (settingOf true) start = some (value', after) :=
    readAssigned_operand _ (by decide) rfl operand
  have assignment : (grammar (depth + 3)).assignment (settingOf true) start = some (value', after) :=
    (Reader.orElse_none (readArrow_member (.inl rfl) crossed) _).trans assigned
  have sequence : readSequence (grammar (depth + 3)) (settingOf true) start = some (value', after) :=
    readSequence_closed (by decide) (by decide) assignment
  exact (readStatement_member (.inl rfl) crossed sequence).trans rfl

/-- A template that is added to the lines. -/
theorem IsTemplate.readPush {tokens : List (Token × Bool)} {value : Tree}
    (template : IsTemplate tokens value) (crossed : Bool) (depth : Nat) :
    (grammar (depth + 47)).statement true (settingOf true)
      ⟨ofLined (pushTokens crossed ++ tokens ++ [(.mark ")", false), (.mark ";", false)]) tail,
        hoisted, secrets⟩ = some (pushTree value, ⟨tail, hoisted, secrets⟩) := by
  have assignment : (grammar (depth + 43)).assignment (settingOf true)
      ⟨ofLined (tokens ++ [(.mark ")", false)]) (ofLined [(.mark ";", false)] tail), hoisted,
        secrets⟩ = _ := template.readAssignment (by decide) false
  have start : (ofLined (tokens ++ [(Token.mark ")", false)]) (ofLined [(.mark ";", false)] tail)).token ∉
      [.mark ")", .mark "..."] := by
    obtain ⟨run, written, final, line, more, rfl⟩ := template.head
    exact nofun
  have statement := readStatement_push crossed (fun same => start (by rw [same]; simp))
    (fun same => start (by rw [same]; simp)) assignment
  rw [← ofLined_append, ← ofLined_append] at statement
  simpa only [List.append_assoc, List.cons_append, List.nil_append] using statement

end Lines

section Fixed

/-- Tokens that are read as a statement, whatever follows them. -/
def ReadsStatement (returns : Bool) (tokens : List (Token × Bool)) (tree : Tree) : Prop :=
  ∀ depth tail hoisted secrets,
    (grammar (depth + 60)).statement true (settingOf returns) (.at tokens tail hoisted secrets) =
      some (tree, ⟨tail, hoisted, secrets⟩)

/-- A call that adds a value to the lines, on a line of its own. -/
def pushLine (tokens : List (Token × Bool)) : List (Token × Bool) :=
  pushTokens true ++ tokens ++ [sign ")", sign ";"]

theorem IsTemplate.readsPush {tokens : List (Token × Bool)} {value : Tree}
    (template : IsTemplate tokens value) : ReadsStatement true (pushLine tokens) (pushTree value) :=
  fun depth _ _ _ => template.readPush true (depth + 13)

/-- The start of the list of lines. -/
def listTree : Tree :=
  .declare .constant [.item (.name "fp") (.list [])]

theorem readsStatement_list : ReadsStatement true
    [word "const" true, word "fp", sign "=", sign "[", sign "]", sign ";"] listTree :=
  fun _ _ _ _ => rfl

def sideTree : Tree :=
  .member (.name "p") (wordKey "side")

/-- The test whether the placement is on the other side. -/
def flipTree (other : Units) : Tree :=
  .declare .constant [.item (.name "flip") (.binary .same sideTree (.constant (.text other)))]

theorem readsStatement_flip (other : Units) : ReadsStatement true
    [word "const" true, word "flip", sign "=", word "p", sign ".", word "side", sign "===",
      quote other, sign ";"] (flipTree other) :=
  fun _ _ _ _ => rfl

def sideMessage : Units :=
  units "unsupported side: "

def checkTokens (own : Units) : List (Token × Bool) :=
  [word "if" true, sign "(", sign "!", word "flip", sign "&&", word "p", sign ".", word "side",
    sign "!==", quote own, sign ")", word "throw", word "new", word "Error", sign "(",
    quote sideMessage, sign "+", word "p", sign ".", word "side", sign ")", sign ";"]

/-- The failure on a side that the module does not know. -/
def checkTree (own : Units) : Tree :=
  .branch (.logic .and (.unary .not (.name "flip"))
      (.binary .different sideTree (.constant (.text own))))
    (.fail (.make (.name "Error") [.binary .add (.constant (.text sideMessage)) sideTree])) .absent

/-- Tokens that are read as a statement before another one. -/
def ReadsBefore (tokens next : List (Token × Bool)) (tree : Tree) : Prop :=
  ∀ depth tail hoisted secrets, (grammar (depth + 60)).statement true (settingOf true)
    (.at (tokens ++ next) tail hoisted secrets) = some (tree, .at next tail hoisted secrets)

/-- What follows the failure is no alternative to it. -/
theorem readsBefore_check (own : Units) :
    ReadsBefore (checkTokens own) [word "fp" true] (checkTree own) :=
  fun _ _ _ _ => rfl

def placeTree : Tree :=
  .member (.name "p") (wordKey "at")

theorem readsStatement_place :
    ReadsStatement true (pushLine [word "p", sign ".", word "at"]) (pushTree placeTree) :=
  fun _ _ _ _ => rfl

/-- The line that closes the footprint. -/
def lastTree : Tree :=
  .constant (.text (units ")"))

theorem readsStatement_last :
    ReadsStatement true (pushLine [quote (units ")")]) (pushTree lastTree) :=
  fun _ _ _ _ => rfl

def joinTree : Tree :=
  .giveBack (.call (.member (.name "fp") (wordKey "join")) [.constant (.text (units "\n"))])

theorem readsStatement_join : ReadsStatement true
    [word "return" true, word "fp", sign ".", word "join", sign "(",
      (.text (units "\n") false false, false), sign ")", sign ";"] joinTree :=
  fun _ _ _ _ => rfl

/-- The object that takes what a script exports. -/
def moduleTree : Tree :=
  .expression (.assign (.member (.name "globalThis") (wordKey "module"))
    (.record [.field (.fixedKey (units "exports")) (.record [])]))

theorem readsStatement_module : ReadsStatement false
    [word "globalThis", sign ".", word "module", sign "=", sign "\x7b", word "exports", sign ":",
      sign "\x7b", sign "\x7d", sign "\x7d", sign ";"] moduleTree :=
  fun _ _ _ _ => rfl

def exportsTree : Tree :=
  .expression (.assign (.member (.name "globalThis") (wordKey "exports"))
    (.member (.name "module") (wordKey "exports")))

theorem readsStatement_exports : ReadsStatement false
    [word "globalThis", sign ".", word "exports", sign "=", word "module", sign ".",
      word "exports", sign ";"] exportsTree :=
  fun _ _ _ _ => rfl

def resultTree : Tree :=
  .expression (.member (.name "module") (wordKey "exports"))

theorem readsStatement_result : ReadsStatement false
    [word "module" true, sign ".", word "exports", sign ";"] resultTree :=
  fun _ _ _ _ => rfl

end Fixed

end FootprintTemplate.Script
