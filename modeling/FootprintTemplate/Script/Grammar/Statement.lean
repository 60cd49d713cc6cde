import FootprintTemplate.Script.Grammar.Class

/-! Statements of a script. -/
namespace FootprintTemplate.Script

open Reader

def readBlock (g : Grammar) (setting : Setting) : Reader (List Tree) := do
  mark "\x7b"
  let (body, hoisted) ← declaring (readStatements g setting)
  require (isBlock setting.strict body hoisted)
  hoist hoisted
  return body

/-- A value in parentheses. -/
def readTest (g : Grammar) (setting : Setting) : Reader Tree := do
  mark "("
  let value ← readSequence g { setting with isIn := true }
  mark ")"
  return value

/-- A declared target with its first value. Parts of a record or a list need one, and so does what
cannot be changed. -/
def readDeclared (g : Grammar) (setting : Setting) (kind : Declared) : Reader Tree := do
  let target ← g.target true setting
  require (kind == .hoisted || !target.boundNames.contains "let")
  if ← takesMark "=" then return .item target (← g.assignment setting)
  else match target with
    | .name _ =>
      require (kind != .constant)
      return .item target .absent
    | _ => failure

/-- Declares names, those of `var` for the whole routine. -/
def declareNames (kind : Declared) (targets : List Tree) : Reader Unit :=
  if kind == .hoisted then hoist (Tree.allBoundNames targets) else pure ()

def readDeclaration (g : Grammar) (setting : Setting) (kind : Declared) : Reader Tree := do
  let first ← readDeclared g setting kind
  let rest ← items do
    if ← takesMark "," then return some (← readDeclared g setting kind) else return none
  declareNames kind (first :: rest)
  return .declare kind (first :: rest)

/-- The word `let` stands here before something that it can declare. -/
def isLetDeclaration : Reader Bool := do
  if !(← isWord "let") then return false
  return (← ahead do
    advance
    match ← token with
    | .mark text => return text == "[" || text == "\x7b"
    | .name text _ => return !alwaysReserved.contains text
    | _ => return false).getD false

/-- The word of a declaration, if one stands here. -/
def takesDeclared : Reader (Option Declared) := do
  if ← takesWord "var" then return some .hoisted
  else if ← takesWord "const" then return some .constant
  else if ← isLetDeclaration then
    advance
    return some .changing
  else return none

/-- A statement inside another one, where no declaration may stand. -/
def readInner (g : Grammar) (setting : Setting) : Reader Tree :=
  g.statement false setting

def Setting.loop (setting : Setting) : Setting :=
  { setting with inLoop := true, inSwitch := true, isIn := true }

/-- The target of a loop over keys or values. -/
def readLoopTarget (g : Grammar) (setting : Setting) : Reader Tree := do
  match ← takesDeclared with
  | some kind =>
    let target ← g.target true setting
    require (kind == .hoisted || (!target.boundNames.contains "let" &&
      isDistinct target.boundNames))
    declareNames kind [target]
    return .declare kind [target]
  | none =>
    require !(← isWord "let")
    let isAsyncName ← isWord "async"
    let target ← g.target false { setting with isIn := true }
    require !(isAsyncName && (← isWord "of"))
    return target

/-- The names that a loop declares anew for each turn are not declared again by its body. -/
def declaresApart (start : Tree) (hoisted : List String) : Bool :=
  match start with
  | .declare .hoisted _ => true
  | .declare _ items =>
    let names := Tree.allBoundNames items
    isDistinct names && isDisjoint names hoisted
  | _ => true

def readLoopBody (g : Grammar) (setting : Setting) (start : Tree) : Reader Tree := do
  let (body, hoisted) ← declaring (readInner g setting.loop)
  require (declaresApart start hoisted)
  hoist hoisted
  return body

/-- A loop over keys or values, from its target on. -/
def readEach (g : Grammar) (setting : Setting) (isAwaited : Bool) : Reader Tree := do
  let target ← readLoopTarget g setting
  if !isAwaited && (← takesWord "in") then
    let owner ← readSequence g { setting with isIn := true }
    mark ")"
    return .keysLoop target owner (← readLoopBody g setting target)
  else
    word "of"
    let values ← g.assignment { setting with isIn := true }
    mark ")"
    return .valuesLoop target values (← readLoopBody g setting target)

/-- An expression, unless the mark stands here already. -/
def readUpTo (g : Grammar) (setting : Setting) (close : String) : Reader Tree := do
  let value ← if ← isMark close then pure .absent else readSequence g setting
  mark close
  return value

/-- A loop with a start, a test and a step, from its start on. -/
def readCounted (g : Grammar) (setting : Setting) : Reader Tree := do
  let plain := { setting with isIn := true }
  let start ← do
    match ← takesDeclared with
    | some kind =>
      let start ← readDeclaration g { setting with isIn := false } kind
      mark ";"
      pure start
    | none => readUpTo g { setting with isIn := false } ";"
  let test ← readUpTo g plain ";"
  let update ← readUpTo g plain ")"
  return .loop start test update (← readLoopBody g setting start)

def readFor (g : Grammar) (setting : Setting) : Reader Tree := do
  let isAwaited ← takesWord "await"
  require (!isAwaited || setting.awaits)
  mark "("
  if isAwaited then readEach g setting true
  else readEach g setting false <|> readCounted g setting

/-- The label that `break` or `continue` names on its line. -/
def readLabel (setting : Setting) : Reader (Option String) := do
  if ← opensLine then return none
  match ← token with
  | .name _ _ => return some (← variableName setting)
  | _ => return none

def readLeave (setting : Setting) : Reader Tree := do
  let label ← readLabel setting
  endStatement
  require (match label with
    | none => setting.inSwitch
    | some label => (setting.labels.lookup label).isSome)
  return .leave label

def readNext (setting : Setting) : Reader Tree := do
  let label ← readLabel setting
  endStatement
  require (setting.inLoop && label.all fun label => setting.labels.lookup label == some true)
  return .next label

def readGiveBack (g : Grammar) (setting : Setting) : Reader Tree := do
  require setting.returns
  let isBare := (← opensLine) || (← isMark ";") || (← isMark "\x7d") || (← token) == .finish
  let value ← if isBare then pure .absent else readSequence g setting
  endStatement
  return .giveBack value

def readFail (g : Grammar) (setting : Setting) : Reader Tree := do
  require !(← opensLine)
  let value ← readSequence g setting
  endStatement
  return .fail value

/-- The statements of a case up to the next one. -/
def readCase (g : Grammar) (setting : Setting) : Reader Tree := do
  let test ←
    if ← takesWord "default" then pure .absent
    else do
      word "case"
      readSequence g setting
  mark ":"
  return .switchCase test (← items do
    if (← isMark "\x7d") || (← isWord "case") || (← isWord "default") then return none
    return some (← g.statement true setting))

def caseBody : Tree → List Tree
  | .switchCase _ body => body
  | _ => []

def isDefaultCase : Tree → Bool
  | .switchCase .absent _ => true
  | _ => false

def readSwitch (g : Grammar) (setting : Setting) : Reader Tree := do
  let value ← readTest g setting
  mark "\x7b"
  let inner := { setting with inSwitch := true }
  let (cases, hoisted) ← declaring <| items do
    if ← takesMark "\x7d" then return none
    return some (← readCase g inner)
  require ((cases.filter isDefaultCase).length ≤ 1)
  require (isBlock setting.strict (cases.flatMap caseBody) hoisted)
  hoist hoisted
  return .switch value cases

/-- What runs where a block fails. A bare name may be declared again by `var`. -/
def readHandler (g : Grammar) (setting : Setting) : Reader Tree := do
  let target ←
    if ← takesMark "(" then do
      let target ← g.target true setting
      mark ")"
      pure target
    else pure .absent
  let (body, hoisted) ← declaring (readBlock g setting)
  let names := target.boundNames
  require (isDistinct names && isDisjoint names ((blockNames setting.strict body).map Prod.fst))
  require (match target with
    | .name _ => true
    | _ => isDisjoint names hoisted)
  hoist hoisted
  return .handler target (.block body)

def readGuarded (g : Grammar) (setting : Setting) : Reader Tree := do
  let body ← readBlock g setting
  let handler ← if ← takesWord "catch" then readHandler g setting else pure .absent
  let finalizer ←
    if ← takesWord "finally" then do
      pure (.block (← readBlock g setting))
    else pure .absent
  require !(handler.isAbsent && finalizer.isAbsent)
  return .guarded (.block body) handler finalizer

/-- A branch, where a routine may be declared too. -/
def readBranch (g : Grammar) (setting : Setting) : Reader Tree := do
  if !setting.strict && (← isWord "function") then
    advance
    require !(← isMark "*")
    return .block [← readNamedRoutine g setting false false]
  else readInner g setting

/-- An expression does not start like a declaration or a block. -/
def readExpression (g : Grammar) (setting : Setting) : Reader Tree := do
  let isLetList ← ahead do
    word "let"
    mark "["
  require (isLetList.isNone && !(← isMark "\x7b") && !(← isWord "function") &&
    !(← isWord "class") && !(← isAsyncRoutine))
  let value ← readSequence g setting
  endStatement
  return .expression value

/-- A name and a colon stand here. -/
def labelAhead (setting : Setting) : Reader (Option String) := ahead do
  let name ← variableName setting
  mark ":"
  return name

def isLoopWord : Reader Bool :=
  return (← isWord "for") || (← isWord "while") || (← isWord "do")

/-- A labelled statement after its label. A routine may be declared there. -/
def readLabelled (g : Grammar) (setting : Setting) (label : String) : Reader Tree := do
  advance
  advance
  require (setting.labels.lookup label).isNone
  let further ← ahead do
    let _ ← items (do
      match ← labelAhead setting with
      | some _ =>
        advance
        advance
        return some ()
      | none => return none)
    isLoopWord
  let inner := { setting with labels := (label, further == some true) :: setting.labels }
  if !setting.strict && (← isWord "function") then
    advance
    require !(← isMark "*")
    return .labelled label (← readNamedRoutine g inner false false)
  else return .labelled label (← readInner g inner)

/-- A statement that starts with a keyword, after it. -/
def readKeyword? (g : Grammar) (setting : Setting) : String → Option (Reader Tree)
  | "if" => some do
    let test ← readTest g setting
    let yes ← readBranch g setting
    let no ← if ← takesWord "else" then readBranch g setting else pure .absent
    return .branch test yes no
  | "while" => some do
    let test ← readTest g setting
    return .whileLoop test (← readInner g setting.loop)
  | "do" => some do
    let body ← readInner g setting.loop
    word "while"
    let test ← readTest g setting
    let _ ← takesMark ";"
    return .untilLoop body test
  | "for" => some (readFor g setting)
  | "continue" => some (readNext setting)
  | "break" => some (readLeave setting)
  | "return" => some (readGiveBack g setting)
  | "throw" => some (readFail g setting)
  | "switch" => some (readSwitch g setting)
  | "try" => some (readGuarded g setting)
  | "with" => some do
    require !setting.strict
    let owner ← readTest g setting
    return .within owner (← readInner g setting)
  | "debugger" => some do
    endStatement
    return .empty
  | "var" => some do
    let declaration ← readDeclaration g setting .hoisted
    endStatement
    return declaration
  | _ => none

/-- A declaration that belongs to its block. -/
def readBlockDeclaration (g : Grammar) (setting : Setting) : Reader (Option Tree) := do
  if ← isAsyncRoutine then
    advance
    advance
    return some (← readNamedRoutine g setting true false)
  else if ← takesWord "function" then return some (← readNamedRoutine g setting false false)
  else if ← isWord "class" then return some (← readClass g false setting)
  else if (← isWord "const") || (← isLetDeclaration) then
    let kind ← takesDeclared
    let declaration ← readDeclaration g setting (kind.getD .changing)
    endStatement
    return some declaration
  else return none

def readStatement (g : Grammar) (declares : Bool) (setting : Setting) : Reader Tree := do
  let setting := { setting with isIn := true }
  let declaration? ← if declares then readBlockDeclaration g setting else pure none
  match declaration?, ← token with
  | some declaration, _ => return declaration
  | none, .mark "\x7b" => return .block (← readBlock g setting)
  | none, .mark ";" => advance; return .empty
  | none, .name text false =>
    match readKeyword? g setting text with
    | some reader => advance; reader
    | none =>
      match ← labelAhead setting with
      | some label => readLabelled g setting label
      | none => readExpression g setting
  | none, .name _ true =>
    match ← labelAhead setting with
    | some label => readLabelled g setting label
    | none => readExpression g setting
  | none, _ => readExpression g setting

end FootprintTemplate.Script
