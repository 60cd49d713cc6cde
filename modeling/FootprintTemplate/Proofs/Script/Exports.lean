import FootprintTemplate.Proofs.Script.Statements

/-! Scripts that export a record with parameters and a routine. The routine builds a text line by
line. -/
namespace FootprintTemplate.Script

open Reader
open Text (Units units)

section Bodies

/-- One statement of a block, or its end. -/
def blockItem (g : Grammar) (setting : Setting) : Reader (Option Tree) := do
  if ← takesMark "\x7d" then return none
  return some (← g.statement true setting)

variable {depth : Nat} {returns : Bool} {tokens next : List (Token × Bool)} {tree : Tree}
  {tail : Lexemes} {hoisted secrets : List String} {rest : List Tree} {after : Cursor}

theorem blockItem_some {cursor middle : Cursor} {g : Grammar} {setting : Setting}
    (other : cursor.lexemes.token ≠ .mark "\x7d")
    (statement : g.statement true setting cursor = some (tree, middle)) :
    blockItem g setting cursor = some (some tree, middle) := by
  refine (Reader.bind_some (takesMark_other other) _).trans ?_
  exact Reader.bind_some statement _

/-- The tokens start with one that closes no block. -/
def GoesOn (tokens : List (Token × Bool)) : Prop :=
  ∃ token crossed more, tokens = (token, crossed) :: more ∧ token ≠ .mark "\x7d"

theorem GoesOn.token (goesOn : GoesOn tokens) (tail : Lexemes) :
    (ofLined tokens tail).token ≠ .mark "\x7d" := by
  obtain ⟨token, crossed, more, rfl, other⟩ := goesOn
  exact other

theorem ReadsStatement.yields (reads : ReadsStatement returns tokens tree) (goesOn : GoesOn tokens)
    (others : Yields (blockItem (grammar (depth + 60)) (settingOf returns))
      ⟨tail, hoisted, secrets⟩ rest after) :
    Yields (blockItem (grammar (depth + 60)) (settingOf returns)) (.at tokens tail hoisted secrets)
      (tree :: rest) after :=
  .cons (blockItem_some (goesOn.token tail) (reads depth tail hoisted secrets)) others

/-- Lines that are read as statements. -/
structure ReadsLines (lines : List (List (Token × Bool))) (trees : List Tree) : Prop where
  reads : List.Forall₂ (ReadsStatement true) lines trees
  goesOn : ∀ line ∈ lines, GoesOn line

theorem ReadsLines.yields {lines : List (List (Token × Bool))} {trees : List Tree}
    (read : ReadsLines lines trees)
    (others : Yields (blockItem (grammar (depth + 60)) (settingOf true))
      ⟨tail, hoisted, secrets⟩ rest after) :
    Yields (blockItem (grammar (depth + 60)) (settingOf true))
      (.at lines.flatten tail hoisted secrets) (trees ++ rest) after := by
  obtain ⟨reads, goesOn⟩ := read
  induction reads with
  | nil => exact others
  | cons own _ ih =>
    obtain ⟨first, goesOn⟩ := List.forall_mem_cons.mp goesOn
    have more := own.yields first (ih goesOn)
    rwa [Cursor.at, ← ofLined_append] at more

/-- The routine of a module: what it tests and the lines that it adds. -/
def bodyTrees (other own : Units) (header : Tree) (lines : List Tree) : List Tree :=
  listTree :: flipTree other :: checkTree own :: pushTree header :: pushTree placeTree ::
    (lines.map pushTree ++ [pushTree lastTree, joinTree])

def listTokens : List (Token × Bool) :=
  [word "const" true, word "fp", sign "=", sign "[", sign "]", sign ";"]

def flipTokens (other : Units) : List (Token × Bool) :=
  [word "const" true, word "flip", sign "=", word "p", sign ".", word "side", sign "===",
    quote other, sign ";"]

def joinTokens : List (Token × Bool) :=
  [word "return" true, word "fp", sign ".", word "join", sign "(",
    (.text (units "\n") false false, false), sign ")", sign ";"]

def bodyTokens (other own : Units) (header : List (Token × Bool))
    (lines : List (List (Token × Bool))) : List (Token × Bool) :=
  listTokens ++ (flipTokens other ++ (checkTokens own ++ (pushLine header ++
    (pushLine [word "p", sign ".", word "at"] ++ ((lines.map pushLine).flatten ++
      (pushLine [quote (units ")")] ++ (joinTokens ++ [sign "\x7d" true])))))))

variable {other own : Units} {header : List (Token × Bool)} {headerTree : Tree}
  {lines : List (List (Token × Bool))} {lineTrees : List Tree} {exact : Bool}

theorem goesOn_push (tokens : List (Token × Bool)) : GoesOn (pushLine tokens) :=
  ⟨_, _, _, rfl, nofun⟩

theorem readsLines_push (reads : List.Forall₂ IsTemplate lines lineTrees) :
    ReadsLines (lines.map pushLine) (lineTrees.map pushTree) := by
  refine ⟨?_, List.forall_mem_map.mpr fun line _ => goesOn_push line⟩
  rw [List.forall₂_map_left_iff, List.forall₂_map_right_iff]
  exact reads.imp fun line tree template => template.readsPush

theorem yields_body (isHeader : IsTemplate header headerTree)
    (areLines : List.Forall₂ IsTemplate lines lineTrees) :
    Yields (blockItem (grammar (depth + 60)) (settingOf true))
      (.at (bodyTokens other own header lines) tail hoisted secrets)
      (bodyTrees other own headerTree lineTrees) ⟨tail, hoisted, secrets⟩ := by
  have close : Yields (blockItem (grammar (depth + 60)) (settingOf true))
      (.at [sign "\x7d" true] tail hoisted secrets) [] ⟨tail, hoisted, secrets⟩ := .nil rfl
  have join := readsStatement_join.yields ⟨_, _, _, rfl, nofun⟩ close
  have bracket := readsStatement_last.yields (goesOn_push _) join
  simp only [Cursor.at, ← ofLined_append] at bracket
  have added := (readsLines_push areLines).yields bracket
  have place := readsStatement_place.yields (goesOn_push _) added
  have first := isHeader.readsPush.yields (goesOn_push _) place
  simp only [Cursor.at, ← ofLined_append] at first
  have check := Yields.cons (blockItem_some (by exact nofun)
    (readsBefore_check own depth _ hoisted secrets)) first
  have flip := (readsStatement_flip other).yields ⟨_, _, _, rfl, nofun⟩ check
  have list := readsStatement_list.yields ⟨_, _, _, rfl, nofun⟩ flip
  simp only [Cursor.at, ← ofLined_append] at list
  exact list

end Bodies

section Routines

variable {depth : Nat} {tail : Lexemes} {hoisted secrets : List String}

theorem declaring_some {α : Type} {reader : Reader α} (cursor : Cursor) {after : Cursor} {value : α}
    (found : reader { cursor with hoisted := [] } = some (value, after)) :
    declaring reader cursor =
      some ((value, after.hoisted.reverse), { after with hoisted := cursor.hoisted }) := by
  change (reader { cursor with hoisted := [] }).bind _ = _
  rw [found]
  rfl

variable {other own : Units} {header : List (Token × Bool)} {headerTree : Tree}
  {lines : List (List (Token × Bool))} {lineTrees : List Tree} {exact : Bool}

theorem require_true {condition : Bool} (holds : condition = true) (cursor : Cursor) :
    require condition cursor = some ((), cursor) := by
  rw [holds]
  rfl

/-- The routine declares nothing but the list of lines and the side. -/
theorem isBody_bodyTrees :
    isBody (bodyTrees other own headerTree lineTrees) [] ["p"] = true := by
  have names : blockNames true (lineTrees.map pushTree) = [] := by
    refine List.flatMap_eq_nil_iff.mpr fun tree member => ?_
    obtain ⟨line, -, rfl⟩ := List.mem_map.mp member
    rfl
  have plain : ∀ tree ∈ bodyTrees other own headerTree lineTrees,
      tree.isRoutine = false := by
    simp only [bodyTrees, List.mem_cons, List.mem_append, List.mem_map, List.not_mem_nil, or_false]
    rintro tree (rfl | rfl | rfl | rfl | rfl | ⟨line, -, rfl⟩ | rfl | rfl) <;> rfl
  have top : topNames (bodyTrees other own headerTree lineTrees) =
      ["fp", "flip"] := by
    rw [topNames, List.filter_eq_self.mpr (fun tree member => by rw [plain tree member]; rfl),
      bodyTrees]
    simp only [blockNames, List.flatMap_cons, List.flatMap_append] at names ⊢
    rw [names]
    rfl
  have routines : routineNames (bodyTrees other own headerTree lineTrees) = [] := by
    rw [routineNames, List.filter_eq_nil_iff.mpr (fun tree member => by
      rw [plain tree member]; exact Bool.false_ne_true)]
    rfl
  rw [isBody, top, routines]
  rfl

/-- What is known of the routine that builds the text. -/
def arrowInfo : RoutineInfo :=
  ⟨.arrow, false, false, false, none, false, [], true⟩

def arrowTree (body : List Tree) : Tree :=
  .routine arrowInfo [.element (.name "p") .absent] .absent body

theorem readBody_lines (isHeader : IsTemplate header headerTree)
    (areLines : List.Forall₂ IsTemplate lines lineTrees) (few : lineTrees.length + 8 ≤ maxParts) :
    readBody (grammar (depth + 60)) (settingOf true) arrowInfo [.element (.name "p") .absent] .absent
      (.at (bodyTokens other own header lines) tail hoisted secrets) =
        some (arrowTree (bodyTrees other own headerTree lineTrees),
          ⟨tail, hoisted, secrets⟩) := by
  let start : Cursor :=
    .at (bodyTokens other own header lines) tail hoisted secrets
  have enough : (bodyTrees other own headerTree lineTrees).length < maxParts := by
    simp only [bodyTrees, List.length_cons, List.length_append, List.length_map, List.length_nil]
    omega
  have statements : readStatements (grammar (depth + 60)) (settingOf true)
      { start with hoisted := [] } = some (_, ⟨tail, [], secrets⟩) :=
    (yields_body isHeader areLines).items enough
  refine (Reader.bind_some (show isStrictAhead _ = some (false, start) from rfl) _).trans ?_
  refine (Reader.bind_some (show _ = some ((), start) from rfl) _).trans ?_
  refine (Reader.bind_some (show _ = some ((), start) from rfl) _).trans ?_
  refine (Reader.bind_some (show _ = some ((), start) from rfl) _).trans ?_
  refine (Reader.bind_some (declaring_some _ statements) _).trans ?_
  exact (Reader.bind_some (require_true isBody_bodyTrees _) _).trans rfl

def arrowTokens (other own : Units) (header : List (Token × Bool))
    (lines : List (List (Token × Bool))) : List (Token × Bool) :=
  word "p" :: sign "=>" :: sign "\x7b" ::
    bodyTokens other own header lines

theorem readArrow_lines (isHeader : IsTemplate header headerTree)
    (areLines : List.Forall₂ IsTemplate lines lineTrees) (few : lineTrees.length + 8 ≤ maxParts) :
    (grammar (depth + 61)).assignment (settingOf false)
      (.at (arrowTokens other own header lines) tail hoisted secrets) =
        some (arrowTree (bodyTrees other own headerTree lineTrees),
          ⟨tail, hoisted, secrets⟩) := by
  let inside : Cursor :=
    .at (bodyTokens other own header lines) tail hoisted secrets
  have body : readArrowBody (grammar (depth + 60)) (settingOf false) false
      [.element (.name "p") .absent] .absent ⟨ofLined [sign "\x7b"] inside.lexemes, hoisted, secrets⟩ =
        some (_, ⟨tail, hoisted, secrets⟩) :=
    (Reader.bind_some (show takesMark "\x7b" _ = some (true, inside) from rfl) _).trans
      (readBody_lines isHeader areLines few)
  have parameters : readArrowParameters (grammar (depth + 60))
      { settingOf false with isIn := true, inParameters := true }
      (.at (arrowTokens other own header lines) tail hoisted secrets) =
        some (([.element (.name "p") .absent], .absent),
          ⟨ofLined [sign "=>", sign "\x7b"] inside.lexemes, hoisted, secrets⟩) := rfl
  have arrow : readArrow (grammar (depth + 60)) (settingOf false)
      (.at (arrowTokens other own header lines) tail hoisted secrets) =
        some (arrowTree (bodyTrees other own headerTree lineTrees),
          ⟨tail, hoisted, secrets⟩) := by
    refine (Reader.orElse_none (Reader.bind_none rfl _) _).trans ?_
    refine (Reader.bind_some parameters _).trans ?_
    exact (Reader.bind_some (show takesArrow _ = some ((), _) from rfl) _).trans body
  exact Reader.orElse_some arrow

end Routines

section Params

variable {depth : Nat} {tail : Lexemes} {hoisted secrets : List String}

/-- Tokens that are read as the value of a member before a comma. -/
def ReadsMember (tokens : List (Token × Bool)) (value : Tree) : Prop :=
  ∀ depth tail hoisted secrets, (grammar (depth + 60)).assignment (settingOf false)
    (.at (tokens ++ [sign ","]) tail hoisted secrets) =
      some (value, before (.mark ",") false tail hoisted secrets)

theorem readsMember_text (text : Units) (exact : Bool) :
    ReadsMember [(.text text exact false, false)] (.constant (.text text)) :=
  fun _ _ _ _ => rfl

/-- A default as a token and as a constant. -/
inductive IsDefaultToken : Token → Constant → Prop where
  | text (text : Units) (exact : Bool) : IsDefaultToken (.text text exact false) (.text text)
  | null : IsDefaultToken (.name "null" false) .null

def declarationTokens (default : Token) : List (Token × Bool) :=
  [sign "\x7b", word "type", sign ":", quote (units "net"), sign ",", word "value", sign ":",
    (default, false), sign "\x7d"]

/-- The declaration of a net. -/
def declarationTree (default : Constant) : Tree :=
  .record [.field (.fixedKey (units "type")) (.constant (.text (units "net"))),
    .field (.fixedKey (units "value")) (.constant default)]

theorem readsMember_declaration {token : Token} {default : Constant}
    (isDefault : IsDefaultToken token default) :
    ReadsMember (declarationTokens token) (declarationTree default) := by
  cases isDefault with
  | text => exact fun _ _ _ _ => rfl
  | null => exact fun _ _ _ _ => rfl

/-- A member of a record before a comma, in tokens. -/
structure FieldTokens where
  key : Token
  value : List (Token × Bool)

def FieldTokens.all (field : FieldTokens) : List (Token × Bool) :=
  (field.key, true) :: sign ":" :: (field.value ++ [sign ","])

/-- A member in tokens, and its key and value. -/
structure ReadsField (field : FieldTokens) (member : Units × Tree) : Prop where
  isKey : IsKeyToken field.key member.1
  value : ReadsMember field.value member.2

/-- The members of a record. -/
def fieldTrees (members : List (Units × Tree)) : List Tree :=
  members.map fun member => fieldTree member.1 member.2

theorem yields_fields {fields : List FieldTokens} {members : List (Units × Tree)}
    (reads : List.Forall₂ ReadsField fields members) :
    Yields (listedItem "\x7d" (readMember (grammar (depth + 60)) (settingOf false)))
      (.at (fields.flatMap FieldTokens.all ++ [sign "\x7d" true]) tail hoisted secrets)
      (fieldTrees members) ⟨tail, hoisted, secrets⟩ := by
  induction reads with
  | nil => exact .nil rfl
  | @cons field member fields members own _ ih =>
    have value := own.value depth (ofLined (fields.flatMap FieldTokens.all ++ [sign "\x7d" true]) tail)
      hoisted secrets
    have one := listed_field true own.isKey value
    simp only [Cursor.at, ← ofLined_append] at one
    exact .cons (by simpa [FieldTokens.all] using one) ih

theorem isPrototype_fields {members : List (Units × Tree)}
    (once : (members.map Prod.fst).count (units "__proto__") ≤ 1) :
    ((fieldTrees members).filter isPrototype).length ≤ 1 := by
  have same : ((fieldTrees members).filter isPrototype).length =
      (members.map Prod.fst).count (units "__proto__") := by
    rw [fieldTrees, List.filter_map, List.length_map, List.count_eq_length_filter, List.filter_map,
      List.length_map]
    congr 2
    funext member
    simp only [Function.comp_apply, fieldTree]
    cases member.1 == units "__proto__" <;> rfl
  rwa [same]

theorem readsRecord_fields {fields : List FieldTokens} {members : List (Units × Tree)}
    (reads : List.Forall₂ ReadsField fields members)
    (once : (members.map Prod.fst).count (units "__proto__") ≤ 1)
    (few : members.length < maxParts) :
    ReadsRecord 60 false (ofLined (fields.flatMap FieldTokens.all ++ [sign "\x7d" true]) tail)
      (fieldTrees members) ⟨tail, hoisted, secrets⟩ hoisted secrets := by
  intro depth
  have items : listed "\x7d" (readMember (grammar (depth + 60)) (settingOf false))
      (.at (fields.flatMap FieldTokens.all ++ [sign "\x7d" true]) tail hoisted secrets) =
        some (fieldTrees members, ⟨tail, hoisted, secrets⟩) :=
    (yields_fields reads).items (by rwa [fieldTrees, List.length_map])
  refine (Reader.bind_some items _).trans ?_
  exact (Reader.bind_some (require_true (decide_eq_true (isPrototype_fields once)) _) _).trans rfl

end Params

section Exporting

variable {other own : Units} {header : List (Token × Bool)} {headerTree : Tree}
  {lines : List (List (Token × Bool))} {lineTrees : List Tree} {exact : Bool}
  {text : Units} {fields : List FieldTokens} {members : List (Units × Tree)}
  {tail : Lexemes} {hoisted secrets : List String}

/-- The tokens of the parameters, of which the first is a text. -/
def paramsTokens (text : Units) (exact : Bool) (fields : List FieldTokens) : List (Token × Bool) :=
  (⟨.name "designator" false, [(.text text exact false, false)]⟩ :: fields).flatMap
    FieldTokens.all ++ [sign "\x7d" true]

def paramsTrees (text : Units) (members : List (Units × Tree)) : List Tree :=
  fieldTrees ((units "designator", .constant (.text text)) :: members)

/-- A text is no target of an assignment. -/
def IsNoTarget (tokens : List (Token × Bool)) : Prop :=
  ∀ depth tail hoisted secrets, (grammar (depth + 60)).target false (settingOf false)
    (.at tokens tail hoisted secrets) = none

theorem isNoTarget_text (text : Units) (exact : Bool) :
    IsNoTarget [(.text text exact false, false), sign ","] :=
  fun _ _ _ _ => rfl

theorem readParts_params (depth : Nat) :
    readParts (grammar (depth + 60)) false (settingOf false) (.at [sign "\x7b"]
      (ofLined (paramsTokens text exact fields) tail) hoisted secrets) = none := by
  have noTarget := isNoTarget_text text exact depth
    (ofLined (fields.flatMap FieldTokens.all ++ [sign "\x7d" true]) tail) hoisted secrets
  have parts := readParts_none false true (.name "designator") noTarget
  simpa [paramsTokens, Cursor.at, ← ofLined_append, FieldTokens.all] using parts

theorem readsRecord_params (reads : List.Forall₂ ReadsField fields members)
    (once : (members.map Prod.fst).count (units "__proto__") ≤ 1)
    (few : members.length + 8 ≤ maxParts) :
    ReadsRecord 60 false (ofLined (paramsTokens text exact fields) tail)
      (paramsTrees text members) ⟨tail, hoisted, secrets⟩ hoisted secrets := by
  refine readsRecord_fields (.cons ⟨.name "designator", readsMember_text text exact⟩ reads) ?_ ?_
  · have other : units "designator" ≠ units "__proto__" := by decide
    exact Nat.le_trans (Nat.le_of_eq (List.count_cons_of_ne other)) once
  · rw [List.length_cons]
    omega

/-- The record that a module exports: its parameters, and the routine that builds the text. -/
def exportTrees (params body : List Tree) : List Tree :=
  [.field (.fixedKey (units "params")) (.record params),
    .field (.fixedKey (units "body")) (arrowTree body)]

def exportTokens (text : Units) (exact : Bool) (fields : List FieldTokens)
    (body : List (Token × Bool)) : List (Token × Bool) :=
  word "params" true :: sign ":" :: sign "\x7b" :: (paramsTokens text exact fields ++
    (sign "," :: word "body" true :: sign ":" :: (body ++ [sign "\x7d" true])))

theorem readsRecord_export (reads : List.Forall₂ ReadsField fields members)
    (once : (members.map Prod.fst).count (units "__proto__") ≤ 1)
    (few : members.length + 8 ≤ maxParts) (isHeader : IsTemplate header headerTree)
    (areLines : List.Forall₂ IsTemplate lines lineTrees)
    (fewLines : lineTrees.length + 8 ≤ maxParts) :
    ReadsRecord 63 false (ofLined (exportTokens text exact fields
        (arrowTokens other own header lines)) tail)
      (exportTrees (paramsTrees text members) (bodyTrees other own headerTree lineTrees))
      ⟨tail, hoisted, secrets⟩ hoisted secrets := by
  intro depth
  let body := arrowTokens other own header lines
  let next : Lexemes := ofLined (word "body" true :: sign ":" :: (body ++ [sign "\x7d" true])) tail
  have record : ReadsRecord 60 false (ofLined (paramsTokens text exact fields) (ofLined [sign ","] next))
      _ (before (.mark ",") false next hoisted secrets) hoisted secrets :=
    readsRecord_params reads once few
  have params := record.assignment (by decide) readParts_params depth
  have first := listed_field true (.name "params") params
  have arrow : (grammar (depth + 63)).assignment (settingOf false)
      (.at (arrowTokens other own header lines) (ofLined [sign "\x7d" true] tail) hoisted secrets) = _ :=
    readArrow_lines isHeader areLines fewLines
  have second := listed_lastField true true (.name "body") arrow
  simp only [Cursor.at, ← ofLined_append] at first second
  have items : listed "\x7d" (readMember (grammar (depth + 63)) (settingOf false)) _ =
      some (exportTrees _ _, ⟨tail, hoisted, secrets⟩) :=
    (Yields.cons first (.cons second (.nil rfl))).items (Nat.le_of_ble_eq_true rfl)
  have tokens : ofLined (exportTokens text exact fields body) tail =
      ofLined ([(Token.name "params" false, true), sign ":"] ++ ([sign "\x7b"] ++
        (paramsTokens text exact fields ++ [sign ","]))) next := by
    rw [← ofLined_append]
    simp [exportTokens, word, sign]
  rw [tokens]
  exact (Reader.bind_some items _).trans (Reader.bind_some (show require _ _ = some ((), _) from rfl) _)

theorem readParts_export (reads : List.Forall₂ ReadsField fields members)
    (once : (members.map Prod.fst).count (units "__proto__") ≤ 1)
    (few : members.length + 8 ≤ maxParts) (body : List (Token × Bool)) (depth : Nat) :
    readParts (grammar (depth + 63)) false (settingOf false) (.at [sign "\x7b"]
      (ofLined (exportTokens text exact fields body) tail) hoisted secrets) = none := by
  let next : Lexemes := ofLined (word "body" true :: sign ":" :: (body ++ [sign "\x7d" true])) tail
  have record : ReadsRecord 60 false (ofLined (paramsTokens text exact fields) (ofLined [sign ","] next))
      _ (before (.mark ",") false next hoisted secrets) hoisted secrets :=
    readsRecord_params reads once few
  have noTarget : (grammar (depth + 63)).target false (settingOf false) _ = none :=
    record.no_target (by decide) readParts_params (depth + 2)
  have parts := readParts_none false true (.name "params") noTarget
  have tokens : ofLined (exportTokens text exact fields body) tail =
      ofLined ([(Token.name "params" false, true), sign ":"] ++ ([sign "\x7b"] ++
        (paramsTokens text exact fields ++ [sign ","]))) next := by
    rw [← ofLined_append]
    simp [exportTokens, word, sign]
  rw [tokens, ofLined_append, ofLined_append, ofLined_append]
  exact parts

/-- The record is given to the object of the module. -/
def exportTree (record : List Tree) : Tree :=
  .expression (.assign (.member (.name "module") (wordKey "exports")) (.record record))

def assignTokens : List (Token × Bool) :=
  [word "module" true, sign ".", word "exports", sign "="]

theorem readAssigned_export {inner : Lexemes} {value : Tree}
    {after : Cursor} (depth : Nat)
    (assignment : (grammar (depth + 4)).assignment (settingOf false) ⟨inner, hoisted, secrets⟩ =
      some (value, after)) :
    readAssigned (grammar (depth + 4)) (settingOf false) (.at assignTokens inner hoisted secrets) =
      some (.assign (.member (.name "module") (wordKey "exports")) value, after) := by
  have place : (grammar (depth + 4)).binary 0 (settingOf false)
      (.at assignTokens inner hoisted secrets) =
        some (.member (.name "module") (wordKey "exports"), .at [sign "="] inner hoisted secrets) := rfl
  refine (Reader.bind_some place _).trans ?_
  refine (Reader.bind_some (show takesMark "?" _ = some (false, _) from rfl) _).trans ?_
  refine (Reader.bind_some (show isMark "=" _ = some (true, _) from rfl) _).trans ?_
  refine (Reader.bind_some (show require _ _ = some ((), _) from rfl) _).trans ?_
  refine (Reader.bind_some (show advance _ = some ((), ⟨inner, hoisted, secrets⟩) from rfl) _).trans ?_
  exact Reader.bind_some assignment _

theorem readStatement_export (reads : List.Forall₂ ReadsField fields members)
    (once : (members.map Prod.fst).count (units "__proto__") ≤ 1)
    (few : members.length + 8 ≤ maxParts) (isHeader : IsTemplate header headerTree)
    (areLines : List.Forall₂ IsTemplate lines lineTrees)
    (fewLines : lineTrees.length + 8 ≤ maxParts) (depth : Nat) :
    (grammar (depth + 70)).statement true (settingOf false) (.at (assignTokens ++ sign "\x7b" ::
        exportTokens text exact fields
          (arrowTokens other own header lines))
        (ofLined [word "module" true] tail) hoisted secrets) =
      some (exportTree (exportTrees (paramsTrees text members)
          (bodyTrees other own headerTree lineTrees)),
        .at [word "module" true] tail hoisted secrets) := by
  have exports : ReadsRecord 63 false (ofLined (exportTokens text exact fields
      (arrowTokens other own header lines)) (ofLined [word "module" true] tail)) _
        (before (.name "module" false) true tail hoisted secrets) hoisted secrets :=
    readsRecord_export reads once few isHeader areLines fewLines
  have record := exports.assignment (by decide) (readParts_export reads once few _) (depth + 2)
  have assigned := readAssigned_export (depth + 64) record
  let start : Cursor := .at [word "module" true, sign "."] (ofLined [word "exports", sign "="]
    (ofLined [sign "\x7b"] (ofLined (exportTokens text exact fields
      (arrowTokens other own header lines))
        (ofLined [word "module" true] tail)))) hoisted secrets
  have assignment : (grammar (depth + 69)).assignment (settingOf false) start =
      some (_, before (.name "module" false) true tail hoisted secrets) :=
    (Reader.orElse_none (readArrow_member (.inr rfl) true) _).trans assigned
  have sequence := readSequence_closed (by decide) (by decide) assignment
  exact (readStatement_member (.inr rfl) true sequence).trans rfl

end Exporting

section Programs

/-- The item of a program. -/
def programItem (g : Grammar) (setting : Setting) : Reader (Option Tree) := do
  if (← token) == .finish then return none
  return some (← g.statement true setting)

theorem programItem_some {cursor middle : Cursor} {g : Grammar} {setting : Setting} {tree : Tree}
    (other : cursor.lexemes.token ≠ .finish)
    (statement : g.statement true setting cursor = some (tree, middle)) :
    programItem g setting cursor = some (some tree, middle) := by
  have apart : (cursor.lexemes.token == .finish) = false := beq_false_of_ne other
  refine (Reader.bind_some (show token cursor = some (_, cursor) from rfl) _).trans ?_
  rw [apart]
  exact Reader.bind_some statement _

variable {depth : Nat} {tokens : List (Token × Bool)} {tree : Tree} {tail : Lexemes}
  {rest : List Tree} {after : Cursor}

theorem ReadsStatement.yieldsProgram (reads : ReadsStatement false tokens tree)
    (starts : (ofLined tokens tail).token ≠ .finish)
    (others : Yields (programItem (grammar (depth + 70)) (settingOf false)) ⟨tail, [], []⟩ rest after) :
    Yields (programItem (grammar (depth + 70)) (settingOf false)) (.at tokens tail [] [])
      (tree :: rest) after :=
  .cons (programItem_some starts (reads (depth + 10) tail [] [])) others

def moduleTokens : List (Token × Bool) :=
  [word "globalThis", sign ".", word "module", sign "=", sign "\x7b", word "exports", sign ":",
    sign "\x7b", sign "\x7d", sign "\x7d", sign ";"]

def exportsTokens : List (Token × Bool) :=
  [word "globalThis", sign ".", word "exports", sign "=", word "module", sign ".", word "exports",
    sign ";"]

def resultTokens : List (Token × Bool) :=
  [word "module" true, sign ".", word "exports", sign ";"]

variable {other own : Units} {header : List (Token × Bool)} {headerTree : Tree}
  {lines : List (List (Token × Bool))} {lineTrees : List Tree} {exact : Bool}
  {text : Units} {fields : List FieldTokens} {members : List (Units × Tree)}

/-- A script that exports a record with parameters and a routine. -/
def programTokens (text : Units) (exact : Bool) (fields : List FieldTokens)
    (body : List (Token × Bool)) : List (Token × Bool) :=
  moduleTokens ++ (exportsTokens ++ ((assignTokens ++ sign "\x7b" ::
    exportTokens text exact fields body) ++ resultTokens))

def exportProgram (params body : List Tree) : Program :=
  ⟨false, [moduleTree, exportsTree, exportTree (exportTrees params body), resultTree], []⟩

theorem isBody_export (record : List Tree) :
    (isBody [moduleTree, exportsTree, exportTree record, resultTree] [] [] && true) = true := by
  rfl

theorem readProgram_export (reads : List.Forall₂ ReadsField fields members)
    (once : (members.map Prod.fst).count (units "__proto__") ≤ 1)
    (few : members.length + 8 ≤ maxParts) (isHeader : IsTemplate header headerTree)
    (areLines : List.Forall₂ IsTemplate lines lineTrees)
    (fewLines : lineTrees.length + 8 ≤ maxParts) (depth : Nat) (ends : tail.token = .finish) :
    ((readProgram (grammar (depth + 70)) {}).run ⟨ofLined (programTokens text exact fields
      (arrowTokens other own header lines)) tail, [], []⟩).map
        Prod.fst = some (exportProgram (paramsTrees text members)
          (bodyTrees other own headerTree lineTrees)) := by
  have finish : Yields (programItem (grammar (depth + 70)) (settingOf false)) ⟨tail, [], []⟩ []
      ⟨tail, [], []⟩ := by
    refine .nil ((Reader.bind_some (show token _ = some (_, _) from rfl) _).trans ?_)
    change (if (tail.token == .finish) = true then _ else _ : Reader _) _ = _
    rw [ends]
    rfl
  have result := readsStatement_result.yieldsProgram (by exact nofun) finish
  have statement : (grammar (depth + 70)).statement true (settingOf false) (.at (assignTokens ++
      sign "\x7b" :: exportTokens text exact fields (arrowTokens other own header lines))
        (ofLined resultTokens tail) [] []) = _ :=
    readStatement_export reads once few isHeader areLines fewLines depth
  have exported := Yields.cons (programItem_some (by exact nofun) statement) result
  have exports := readsStatement_exports.yieldsProgram (by exact nofun) exported
  have first := readsStatement_module.yieldsProgram (by exact nofun) exports
  rw [programTokens, ofLined_append, ofLined_append, ofLined_append]
  let start : Cursor := .at moduleTokens (ofLined exportsTokens (ofLined (assignTokens ++ sign "\x7b" ::
    exportTokens text exact fields (arrowTokens other own header lines)) (ofLined resultTokens tail))) [] []
  have items := declaring_some start (first.items (Nat.le_of_ble_eq_true rfl))
  have whole : readProgram (grammar (depth + 70)) {} start = some (exportProgram (paramsTrees text members)
      (bodyTrees other own headerTree lineTrees), ⟨tail, [], []⟩) := by
    refine (Reader.bind_some (show isStrictAhead _ = some (false, start) from rfl) _).trans ?_
    refine (Reader.bind_some items _).trans ?_
    refine (Reader.bind_some (show (get : Reader Cursor) _ = some (_, _) from rfl) _).trans ?_
    exact (Reader.bind_some (require_true (isBody_export _) _) _).trans rfl
  exact congrArg (Option.map Prod.fst) whole

/-- A script of such tokens alone is what is read from them. -/
theorem Lexed.parse {text : List Char} (lexed : Lexed ⟨[], false, text⟩ tokens ⟨[], false, []⟩)
    (few : tokens.length ≤ maxParts) : ∃ tail, tail.token = .finish ∧
      parse text = ((readProgram (grammar maxParts) {}).run ⟨ofLined tokens tail, [], []⟩).map
        Prod.fst := by
  refine ⟨Standing.lexemes ⟨[], false, []⟩ (maxParts - tokens.length), ?_, ?_⟩
  · cases maxParts - tokens.length <;> rfl
  · have own := lexed (maxParts - tokens.length)
    rw [Nat.sub_add_cancel few] at own
    change ((readProgram (grammar maxParts) {}).run
      ⟨Standing.lexemes ⟨[], false, text⟩ maxParts, [], []⟩).map Prod.fst = _
    rw [own]

theorem Lexed.parse_export {script : List Char}
    (lexed : Lexed ⟨[], false, script⟩ (programTokens text exact fields
      (arrowTokens other own header lines)) ⟨[], false, []⟩)
    (short : (programTokens text exact fields
      (arrowTokens other own header lines)).length ≤ maxParts)
    (reads : List.Forall₂ ReadsField fields members)
    (once : (members.map Prod.fst).count (units "__proto__") ≤ 1)
    (few : members.length + 8 ≤ maxParts) (isHeader : IsTemplate header headerTree)
    (areLines : List.Forall₂ IsTemplate lines lineTrees)
    (fewLines : lineTrees.length + 8 ≤ maxParts) :
    Script.parse script = some (exportProgram (paramsTrees text members)
      (bodyTrees other own headerTree lineTrees)) := by
  obtain ⟨tail, ends, parses⟩ := lexed.parse short
  have depth : maxParts = maxParts - 70 + 70 := (Nat.sub_add_cancel (Nat.le_of_ble_eq_true rfl)).symm
  rw [parses, depth]
  exact readProgram_export reads once few isHeader areLines fewLines _ ends

end Programs

end FootprintTemplate.Script
