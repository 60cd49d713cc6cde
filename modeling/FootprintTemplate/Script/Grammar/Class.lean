import FootprintTemplate.Script.Grammar.Expression

/-! Classes. Their text is always strict. -/
namespace FootprintTemplate.Script

open Reader
open Text (Units units)

/-- The setting of the routine that computes the value of a member. -/
def Setting.inField (setting : Setting) : Setting :=
  { setting.inside .method false false with returns := false, inClassField := true }

def ownInfo : RoutineInfo :=
  ⟨.method, false, false, true, none, false, [], true⟩

/-- The routine that computes the value of a member, after the equals sign. -/
def readOwnValue (g : Grammar) (setting : Setting) : Reader Tree := do
  let (value, _) ← declaring (g.assignment setting.inField)
  return .routine ownInfo [] .absent [.giveBack value]

/-- Statements that run once the class is made, after the opening brace. -/
def readOwnBlock (g : Grammar) (setting : Setting) : Reader Tree := do
  let (body, hoisted) ← declaring (readStatements g setting.inField)
  require (isBody body hoisted [])
  return .ownBlock (.routine { ownInfo with hoisted } [] .absent body)

/-- The key of a member, which may be a secret name. -/
def readClassKey (g : Grammar) (setting : Setting) : Reader Tree := do
  match ← token with
  | .secret text =>
    advance
    require (text != "constructor")
    return .secretKey text
  | _ => readKey g setting

def isKey (text : String) : Tree → Bool
  | .fixedKey own => own == units text
  | _ => false

/-- Reads a member from its modifiers on. -/
def readOwnMember (g : Grammar) (setting : Setting) (isStatic isDerived : Bool) : Reader Tree := do
  let modifiers ← readModifiers
  let key ← readClassKey g setting
  require !(isStatic && isKey "prototype" key)
  if !modifiers.isPlain || (← isMark "(") then
    let isMaker := !isStatic && isKey "constructor" key
    require (modifiers.isPlain || !isMaker)
    let form := if !isMaker then .method else if isDerived then .derivedMaker else .maker
    modifiers.readMethod g setting form key
  else
    require !(isKey "constructor" key)
    let value ← if ← takesMark "=" then readOwnValue g setting else pure .absent
    endStatement
    return .ownField key value

/-- The word `static` stands here as a modifier. -/
def takesStatic : Reader Bool := do
  if !(← isWord "static") then return false
  let isName ← ahead do
    advance
    match ← token with
    | .mark text => return ["(", "=", ";", "\x7d"].contains text
    | _ => return false
  if isName == some true then return false
  advance
  return true

/-- A member of a class; none for a semicolon by itself. -/
def readClassMember (g : Grammar) (setting : Setting) (isDerived : Bool) : Reader Tree := do
  if ← takesMark ";" then return .empty
  else if ← takesStatic then
    if ← takesMark "\x7b" then return .static (← readOwnBlock g setting)
    else return .static (← readOwnMember g setting true isDerived)
  else readOwnMember g setting false isDerived

/-- A secret name that a member declares, and how it does. -/
def secretOf? : Tree → Option (String × Bool × Option AccessorKind)
  | .static member => (ofMember? member).map fun (name, kind) => (name, true, kind)
  | member => (ofMember? member).map fun (name, kind) => (name, false, kind)
where
  ofMember? : Tree → Option (String × Option AccessorKind)
    | .method (.secretKey name) _ | .ownField (.secretKey name) _ => some (name, none)
    | .accessor kind (.secretKey name) _ => some (name, some kind)
    | _ => none

/-- A secret name is declared twice only as the two accessors of one member. -/
def areSecrets : List (String × Bool × Option AccessorKind) → Bool
  | [] => true
  | (name, isStatic, kind) :: rest =>
    (rest.filter (·.1 == name)).all (fun (_, otherStatic, otherKind) =>
      isStatic == otherStatic && kind.isSome && otherKind.isSome && kind != otherKind) &&
      areSecrets rest

/-- The routine that makes the objects of a class. -/
def makerOf? : Tree → Option Tree
  | .method _ (.routine info parameters rest body) =>
    if info.form == .maker || info.form == .derivedMaker then
      some (.routine info parameters rest body)
    else none
  | _ => none

/-- A class with its name, if it has one, after the word `class`. -/
def readClassRest (g : Grammar) (setting : Setting) (name : Option String) : Reader Tree := do
  let setting := { setting with strict := true, isIn := true }
  let parent ← if ← takesWord "extends" then g.member setting else pure .absent
  mark "\x7b"
  let outside := (← get).secrets
  modify fun cursor => { cursor with secrets := [] }
  let members ← items do
    if ← takesMark "\x7d" then return none
    return some (← readClassMember g setting (!parent.isAbsent))
  let makers := members.filterMap makerOf?
  let secrets := members.filterMap secretOf?
  require (makers.length ≤ 1 && areSecrets secrets)
  let declared := secrets.map Prod.fst
  modify fun cursor =>
    { cursor with secrets := cursor.secrets.filter (!declared.contains ·) ++ outside }
  return .ofClass name name.isSome parent (makers.headD .absent)
    (members.filter fun member => (makerOf? member).isNone)

/-- A class. A declaration has a name. -/
def readClass (g : Grammar) (isExpression : Bool) (setting : Setting) : Reader Tree := do
  word "class"
  let strict := { setting with strict := true }
  match ← token with
  | .name text _ =>
    if text == "extends" then
      require isExpression
      readClassRest g setting none
    else readClassRest g setting (some (← declaredName strict))
  | _ =>
    require isExpression
    readClassRest g setting none

end FootprintTemplate.Script
