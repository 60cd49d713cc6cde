import FootprintTemplate.Script.Lexemes
import FootprintTemplate.Script.Tree

/-! A place in script text, and the steps that readers of scripts are made of. A reader that fails
leaves the place where it was. -/
namespace FootprintTemplate.Script

structure Cursor where
  lexemes : Lexemes
  /-- Names that the routine's body has declared so far, wherever in it. -/
  hoisted : List String := []
  /-- Secret names that were used and are not declared yet. -/
  secrets : List String := []

abbrev Reader := StateT Cursor Option

/-- More parts than any script has. No repetition exceeds it. -/
def maxParts : Nat :=
  Nat.pow 2 60

/-- What surrounds the text that is read. -/
structure Setting where
  strict : Bool := false
  returns : Bool := false
  yields : Bool := false
  awaits : Bool := false
  inLoop : Bool := false
  inSwitch : Bool := false
  /-- The labels of the statement and of those around it; those of loops can be gone on with. -/
  labels : List (String × Bool) := []
  /-- `in` is an operator. -/
  isIn : Bool := true
  superMembers : Bool := false
  superCalls : Bool := false
  newTarget : Bool := false
  inClassField : Bool := false
  /-- Nothing is handed out or awaited among parameters. -/
  inParameters : Bool := false

def alwaysReserved : List String :=
  ["break", "case", "catch", "class", "const", "continue", "debugger", "default", "delete", "do",
    "else", "enum", "export", "extends", "false", "finally", "for", "function", "if", "import",
    "in", "instanceof", "new", "null", "return", "super", "switch", "this", "throw", "true", "try",
    "typeof", "var", "void", "while", "with"]

def strictlyReserved : List String :=
  ["implements", "interface", "let", "package", "private", "protected", "public", "static",
    "yield"]

namespace Setting

/-- The word cannot name a variable. -/
def reserves (setting : Setting) (word : String) : Bool :=
  alwaysReserved.contains word || (setting.strict && strictlyReserved.contains word) ||
    (setting.yields && word == "yield") || (setting.awaits && word == "await") ||
    (setting.inClassField && (word == "arguments" || word == "await"))

/-- The name can be declared. -/
def declares (setting : Setting) (name : String) : Bool :=
  !setting.reserves name && !(setting.strict && (name == "eval" || name == "arguments"))

/-- The operand can be given a value. -/
def isPlace (setting : Setting) (tree : Tree) : Bool :=
  match tree.bare with
  | .name name => setting.declares name
  | .member _ _ | .secretMember _ _ | .superMember _ => true
  | _ => false

end Setting

namespace Reader

def token : Reader Token :=
  return (← get).lexemes.token

def opensLine : Reader Bool :=
  return (← get).lexemes.opensLine

def advance : Reader Unit :=
  modify fun cursor => { cursor with lexemes := cursor.lexemes.next }

/-- Goes on only if the condition holds. -/
def require (condition : Bool) : Reader Unit :=
  if condition then pure () else failure

/-- What a reader would find, without going on. -/
def ahead {α : Type} (reader : Reader α) : Reader (Option α) :=
  fun cursor => some ((reader cursor).map Prod.fst, cursor)

def isMark (mark : String) : Reader Bool :=
  return (← token) == .mark mark

def isWord (word : String) : Reader Bool :=
  return (← token) == .name word false

/-- Takes the mark if it stands here. -/
def takesMark (mark : String) : Reader Bool := do
  let here ← isMark mark
  if here then advance
  return here

def takesWord (word : String) : Reader Bool := do
  let here ← isWord word
  if here then advance
  return here

def mark (mark : String) : Reader Unit := do
  require (← takesMark mark)

def word (word : String) : Reader Unit := do
  require (← takesWord word)

/-- The items that a reader finds until it finds none. -/
def items {α : Type} (reader : Reader (Option α)) : Reader (List α) := do
  go reader maxParts
where
  go (reader : Reader (Option α)) : Nat → Reader (List α)
    | 0 => failure
    | fuel + 1 => do
      match ← reader with
      | none => return []
      | some item => return item :: (← go reader fuel)

/-- Items with commas between them up to a closing mark. One comma may stand before it. -/
def listed {α : Type} (close : String) (item : Reader α) : Reader (List α) :=
  items do
    if ← takesMark close then return none
    let item ← item
    if !(← isMark close) then mark ","
    return some item

/-- The end of a statement: a semicolon, or none before a closing brace or at the end of a line. -/
def endStatement : Reader Unit := do
  if !(← takesMark ";") then
    require ((← isMark "\x7d") || (← token) == .finish || (← opensLine))

/-- A name that may be any word. -/
def anyName : Reader String := do
  match ← token with
  | .name text _ => advance; return text
  | _ => failure

/-- A name of a variable. -/
def variableName (setting : Setting) : Reader String := do
  let name ← anyName
  require (!setting.reserves name)
  return name

def declaredName (setting : Setting) : Reader String := do
  let name ← anyName
  require (setting.declares name)
  return name

def secretName : Reader String := do
  match ← token with
  | .secret text =>
    advance
    modify fun cursor => { cursor with secrets := text :: cursor.secrets }
    return text
  | _ => failure

/-- Runs a reader with no names declared, and gives those that it has declared. -/
def declaring {α : Type} (reader : Reader α) : Reader (α × List String) := do
  let before := (← get).hoisted
  modify fun cursor => { cursor with hoisted := [] }
  let result ← reader
  let hoisted := (← get).hoisted
  modify fun cursor => { cursor with hoisted := before }
  return (result, hoisted.reverse)

def hoist (names : List String) : Reader Unit :=
  modify fun cursor => { cursor with hoisted := names.reverse ++ cursor.hoisted }

end Reader

/-- Readers of the parts of a script that contain one another. -/
structure Grammar where
  assignment : Setting → Reader Tree
  unary : Setting → Reader Tree
  /-- Operators that bind at least as tightly as the level says. -/
  binary : Nat → Setting → Reader Tree
  /-- A value with its members, without calls. -/
  member : Setting → Reader Tree
  /-- Where values are put, by a declaration or an assignment. -/
  target : Bool → Setting → Reader Tree
  /-- A statement, or a declaration if one may stand there. -/
  statement : Bool → Setting → Reader Tree

end FootprintTemplate.Script
