import FootprintTemplate.Number.Shortest
import FootprintTemplate.Regex.Read
import FootprintTemplate.Script.Grammar.Routine

/-! Expressions of a script. -/
namespace FootprintTemplate.Script

open Reader
open Text (Units units)

/-- The name of a member that a number stands for. -/
def numberKey (value : Number.Double) : Units :=
  Text.unitsOfChars (Number.scriptStyle.chars value)

/-- The key of a member: a word, a text, a number or a value in brackets. -/
def readKey (g : Grammar) (setting : Setting) : Reader Tree := do
  match ← token with
  | .name text _ => advance; return .fixedKey (units text)
  | .text value _ octal =>
    require !(octal && setting.strict)
    advance
    return .fixedKey value
  | .number value old =>
    require !(old && setting.strict)
    advance
    return .fixedKey (numberKey value)
  | .integer value => advance; return .fixedKey (units (toString value))
  | .mark "[" =>
    advance
    let key ← g.assignment { setting with isIn := true }
    mark "]"
    return .computedKey key
  | _ => failure

/-- A word stands here as a modifier of the member that follows it. -/
def takesModifier (text : String) : Reader Bool := do
  if !(← isWord text) then return false
  let next ← ahead do
    advance
    return (← token, ← opensLine)
  match next with
  | some (.mark mark, newLine) =>
    if ["(", ",", ":", "=", ";", "\x7d"].contains mark || (mark == "*" && text != "async") ||
        (newLine && text == "async") then return false
    advance
    return true
  | some (_, newLine) =>
    if newLine && text == "async" then return false
    advance
    return true
  | none => return false

/-- What precedes the key of a method. -/
structure Modifiers where
  isAsync : Bool
  isGenerator : Bool
  accessor : Option AccessorKind

def readModifiers : Reader Modifiers := do
  if ← takesModifier "get" then return ⟨false, false, some .getter⟩
  else if ← takesModifier "set" then return ⟨false, false, some .setter⟩
  else
    let isAsync ← takesModifier "async"
    return ⟨isAsync, ← takesMark "*", none⟩

namespace Modifiers

def isPlain (modifiers : Modifiers) : Bool :=
  !modifiers.isAsync && !modifiers.isGenerator && modifiers.accessor.isNone

/-- Reads a method with its modifiers, from its parameters on. -/
def readMethod (modifiers : Modifiers) (g : Grammar) (setting : Setting) (form : RoutineForm)
    (key : Tree) : Reader Tree := do
  let routine ← readRoutine g setting form modifiers.isAsync modifiers.isGenerator none
  match modifiers.accessor, routine with
  | none, _ => return .method key routine
  | some .getter, .routine _ [] .absent _ => return .accessor .getter key routine
  | some .setter, .routine _ [_] .absent _ => return .accessor .setter key routine
  | some _, _ => failure

end Modifiers

def readMember (g : Grammar) (setting : Setting) : Reader Tree := do
  let setting := { setting with isIn := true }
  if ← takesMark "..." then return .spread (← g.assignment setting)
  else
    let modifiers ← readModifiers
    let first ← token
    let key ← readKey g setting
    if !modifiers.isPlain || (← isMark "(") then modifiers.readMethod g setting .method key
    else if ← takesMark ":" then
      let value ← g.assignment setting
      match key with
      | .fixedKey text =>
        if text == units "__proto__" then return .prototype value else return .field key value
      | _ => return .field key value
    else match first with
      | .name text _ =>
        require !(setting.reserves text)
        return .field key (.name text)
      | _ => failure

def isPrototype : Tree → Bool
  | .prototype _ => true
  | _ => false

def readRecord (g : Grammar) (setting : Setting) : Reader Tree := do
  let members ← listed "\x7d" (readMember g setting)
  require ((members.filter isPrototype).length ≤ 1)
  return .record members

/-- An argument, or the item of a list. -/
def readItem (g : Grammar) (setting : Setting) : Reader Tree := do
  if ← takesMark "..." then return .spread (← g.assignment setting)
  else g.assignment setting

def readList (g : Grammar) (setting : Setting) : Reader Tree := do
  return .list (← items do
    if ← takesMark "]" then return none
    if ← takesMark "," then return some .hole
    let item ← readItem g setting
    if !(← isMark "]") then mark ","
    return some item)

def readArguments (g : Grammar) (setting : Setting) : Reader (List Tree) :=
  listed ")" (readItem g { setting with isIn := true })

/-- One value after another, the last of which is kept. -/
def readSequence (g : Grammar) (setting : Setting) : Reader Tree := do
  let first ← g.assignment setting
  let rest ← items do
    if ← takesMark "," then return some (← g.assignment setting) else return none
  return rest.foldl .sequence first

/-- The values of a template with the texts after them. -/
def readStretches (g : Grammar) (setting : Setting) :
    Reader (List (Tree × Option Units × Units)) := do
  go g { setting with isIn := true } maxParts
where
  go (g : Grammar) (setting : Setting) : Nat → Reader (List (Tree × Option Units × Units))
    | 0 => failure
    | fuel + 1 => do
      let value ← readSequence g setting
      mark "\x7d"
      match ← token with
      | .template text written final =>
        advance
        let rest ← if final then pure [] else go g setting fuel
        return (value, text, written) :: rest
      | _ => failure

/-- A template: its first text, and the values with the texts after them. -/
def readTemplateParts (g : Grammar) (setting : Setting) :
    Reader ((Option Units × Units) × List (Tree × Option Units × Units)) := do
  match ← token with
  | .template text written final =>
    advance
    let rest ← if final then pure [] else readStretches g setting
    return ((text, written), rest)
  | _ => failure

def readTemplateValue (g : Grammar) (setting : Setting) : Reader Tree := do
  let ((first, _), rest) ← readTemplateParts g setting
  match first with
  | none => failure
  | some first =>
    let stretches ← rest.mapM fun (value, text, _) => do
      match text with
      | some text => return Tree.stretch value text
      | none => failure
    return .template first stretches

def readTagged (g : Grammar) (setting : Setting) (tag : Tree) : Reader Tree := do
  let ((text, written), rest) ← readTemplateParts g setting
  return .tagged tag (text :: rest.map (·.2.1)) (written :: rest.map (·.2.2)) (rest.map (·.1))

/-- A pattern, which has to be well formed. -/
def readRegex : Reader Tree := do
  modify fun cursor => { cursor with lexemes := cursor.lexemes.asPattern }
  match ← token with
  | .pattern source flags =>
    let source := Text.unitsOfChars source
    let flags := Text.unitsOfChars flags
    require (Regex.read? source flags).isSome
    advance
    return .regex source flags
  | _ => failure

/-- The word `async` stands before `function` on its line. -/
def isAsyncRoutine : Reader Bool := do
  if !(← isWord "async") then return false
  return (← ahead do
    advance
    return !(← opensLine) && (← isWord "function")).getD false

/-- A value that is made of no operators. -/
def readPrimary (g : Grammar) (readClass : Setting → Reader Tree) (setting : Setting) :
    Reader Tree := do
  if ← isAsyncRoutine then
    advance
    advance
    readNamedRoutine g setting true true
  else match ← token with
    | .name text escaped =>
      match text, escaped with
      | "this", false => advance; return .this
      | "null", false => advance; return .constant .null
      | "true", false => advance; return .constant (.truth true)
      | "false", false => advance; return .constant (.truth false)
      | "function", false => advance; readNamedRoutine g setting false true
      | "class", false => readClass setting
      | text, _ =>
        require !(setting.reserves text)
        advance
        return .name text
    | .number value old =>
      require !(old && setting.strict)
      advance
      return .constant (.number value)
    | .integer value => advance; return .constant (.integer value)
    | .text value _ octal =>
      require !(octal && setting.strict)
      advance
      return .constant (.text value)
    | .template _ _ _ => readTemplateValue g setting
    | .mark "(" =>
      advance
      let value ← readSequence g { setting with isIn := true }
      mark ")"
      return .enclosed value
    | .mark "[" => advance; readList g { setting with isIn := true }
    | .mark "\x7b" => advance; readRecord g setting
    | .mark "/" | .mark "/=" => readRegex
    | _ => failure

/-- A key in brackets after its opening one. -/
def readIndex (g : Grammar) (setting : Setting) : Reader Tree := do
  let key ← readSequence g { setting with isIn := true }
  mark "]"
  return key

def wordKey (text : String) : Tree :=
  .constant (.text (units text))

/-- The member after a point. -/
def readPointed (owner : Tree) : Reader Tree := do
  match ← token with
  | .secret _ => return .secretMember owner (← secretName)
  | _ => return .member owner (wordKey (← anyName))

/-- Members and calls after a value. In a chain, one part of it may be missing. -/
def readSuffixes (g : Grammar) (setting : Setting) (calls : Bool) :
    Nat → Bool → Tree → Reader Tree
  | 0, _, _ => failure
  | fuel + 1, inChain, value => do
    match ← token with
    | .mark "." =>
      advance
      readSuffixes g setting calls fuel inChain (← readPointed value)
    | .mark "[" =>
      advance
      readSuffixes g setting calls fuel inChain (.member value (← readIndex g setting))
    | .mark "(" =>
      if calls then
        advance
        readSuffixes g setting calls fuel inChain (.call value (← readArguments g setting))
      else return value
    | .mark "?." =>
      require calls
      advance
      if ← takesMark "(" then
        readSuffixes g setting calls fuel true (.call (.link value) (← readArguments g setting))
      else if ← takesMark "[" then
        readSuffixes g setting calls fuel true (.member (.link value) (← readIndex g setting))
      else readSuffixes g setting calls fuel true (← readPointed (.link value))
    | .template _ _ _ =>
      require !inChain
      readSuffixes g setting calls fuel inChain (← readTagged g setting value)
    | _ => return if inChain then .chain value else value

/-- A new object, or the class that is made, after the word `new`. -/
def readNew (g : Grammar) (setting : Setting) : Reader Tree := do
  if ← takesMark "." then
    require setting.newTarget
    word "target"
    return .newTarget
  else
    require !(← isWord "import")
    let callee ← g.member setting
    if ← takesMark "(" then return .make callee (← readArguments g setting)
    else return .make callee []

/-- A member or call of the class that is extended, after the word `super`. -/
def readSuper (g : Grammar) (setting : Setting) : Reader Tree := do
  if ← takesMark "(" then
    require setting.superCalls
    return .superCall (← readArguments g setting)
  else
    require setting.superMembers
    if ← takesMark "." then return .superMember (wordKey (← anyName))
    else
      mark "["
      return .superMember (← readIndex g setting)

/-- A value with its members and, unless they are left out, its calls. -/
def readOperand (g : Grammar) (readClass : Setting → Reader Tree) (calls : Bool)
    (setting : Setting) : Reader Tree := do
  let value ←
    if ← takesWord "new" then readNew g setting
    else if ← takesWord "super" then readSuper g setting
    else if ← takesWord "import" then do
      require calls
      mark "("
      let name ← g.assignment { setting with isIn := true }
      mark ")"
      pure (.imported name)
    else readPrimary g readClass setting
  readSuffixes g setting calls maxParts false value

def unaryOp? : Token → Option UnaryOp
  | .mark "-" => some .minus
  | .mark "+" => some .plus
  | .mark "~" => some .complement
  | .mark "!" => some .not
  | .name "typeof" false => some .typeName
  | .name "void" false => some .nothing
  | _ => none

def isDeletable (strict : Bool) (tree : Tree) : Bool :=
  match tree.bare with
  | .name _ => !strict
  | .secretMember _ _ | .chain (.secretMember _ _) => false
  | _ => true

/-- A value with the operators before and after it that apply to it alone. -/
def readUnary (g : Grammar) (readClass : Setting → Reader Tree) (setting : Setting) :
    Reader Tree := do
  match unaryOp? (← token), ← token with
  | some op, _ =>
    advance
    return .unary op (← g.unary setting)
  | none, .name "delete" false =>
    advance
    let operand ← g.unary setting
    require (isDeletable setting.strict operand)
    return .delete operand
  | none, .mark "++" | none, .mark "--" =>
    let up ← isMark "++"
    advance
    let place ← g.unary setting
    require (setting.isPlace place)
    return .step up true place
  | none, .secret _ =>
    let name ← secretName
    require (setting.isIn && (← isWord "in"))
    return .hasSecret name .absent
  | none, .name "await" false =>
    if setting.awaits then
      require !setting.inParameters
      advance
      return .awaited (← g.unary setting)
    else readStep setting
  | none, _ => readStep setting
where
  readStep (setting : Setting) : Reader Tree := do
    let value ← readOperand g readClass true setting
    if !(← opensLine) && ((← isMark "++") || (← isMark "--")) then
      let up ← isMark "++"
      advance
      require (setting.isPlace value)
      return .step up false value
    else return value

/-- An operator between two operands. -/
inductive Infixed where
  | binary (op : BinaryOp)
  | logic (op : LogicOp)

/-- The operator and how tightly it binds. -/
def infixed? (setting : Setting) : Token → Option (Nat × Infixed)
  | .mark "??" => some (1, .logic .fallback)
  | .mark "||" => some (2, .logic .or)
  | .mark "&&" => some (3, .logic .and)
  | .mark "|" => some (4, .binary .bitOr)
  | .mark "^" => some (5, .binary .bitXor)
  | .mark "&" => some (6, .binary .bitAnd)
  | .mark "==" => some (7, .binary .equal)
  | .mark "!=" => some (7, .binary .unequal)
  | .mark "===" => some (7, .binary .same)
  | .mark "!==" => some (7, .binary .different)
  | .mark "<" => some (8, .binary .less)
  | .mark ">" => some (8, .binary .greater)
  | .mark "<=" => some (8, .binary .lessEqual)
  | .mark ">=" => some (8, .binary .greaterEqual)
  | .name "in" false => if setting.isIn then some (8, .binary .hasMember) else none
  | .name "instanceof" false => some (8, .binary .isInstance)
  | .mark "<<" => some (9, .binary .shiftLeft)
  | .mark ">>" => some (9, .binary .shiftRight)
  | .mark ">>>" => some (9, .binary .shiftUnsigned)
  | .mark "+" => some (10, .binary .add)
  | .mark "-" => some (10, .binary .sub)
  | .mark "*" => some (11, .binary .mul)
  | .mark "/" => some (11, .binary .div)
  | .mark "%" => some (11, .binary .rem)
  | .mark "**" => some (12, .binary .pow)
  | _ => none

def isLoneSecret : Tree → Bool
  | .hasSecret _ .absent => true
  | _ => false

/-- The operation on two operands. Some operands have to be in parentheses. -/
def combine? (op : Infixed) (left right : Tree) : Option Tree :=
  if isLoneSecret right then none
  else match op, left with
    | .binary .hasMember, .hasSecret name .absent => some (.hasSecret name right)
    | _, .hasSecret _ .absent => none
    | .binary .pow, .unary _ _ | .binary .pow, .delete _ | .binary .pow, .awaited _ => none
    | .binary op, left => some (.binary op left right)
    | .logic op, left =>
      let mixes : Tree → Bool
        | .logic other _ _ => (op == .fallback) != (other == .fallback)
        | _ => false
      if mixes left || mixes right then none else some (.logic op left right)

/-- Operators of at least a level after a left operand. -/
def readInfixed (g : Grammar) (level : Nat) (setting : Setting) : Nat → Tree → Reader Tree
  | 0, _ => failure
  | fuel + 1, left => do
    match infixed? setting (← token) with
    | none => return left
    | some (own, op) =>
      if own < level then return left
      else
        advance
        let right ← g.binary (if own == 12 then own else own + 1) setting
        match combine? op left right with
        | some value => readInfixed g level setting fuel value
        | none => failure

def readBinary (g : Grammar) (level : Nat) (setting : Setting) : Reader Tree := do
  let left ← g.unary setting
  readInfixed g level setting maxParts left

inductive Assigned where
  | binary (op : BinaryOp)
  | logic (op : LogicOp)

/-- The operator that changes a place. -/
def assigned? : Token → Option Assigned
  | .mark "+=" => some (.binary .add)
  | .mark "-=" => some (.binary .sub)
  | .mark "*=" => some (.binary .mul)
  | .mark "/=" => some (.binary .div)
  | .mark "%=" => some (.binary .rem)
  | .mark "**=" => some (.binary .pow)
  | .mark "<<=" => some (.binary .shiftLeft)
  | .mark ">>=" => some (.binary .shiftRight)
  | .mark ">>>=" => some (.binary .shiftUnsigned)
  | .mark "&=" => some (.binary .bitAnd)
  | .mark "|=" => some (.binary .bitOr)
  | .mark "^=" => some (.binary .bitXor)
  | .mark "&&=" => some (.logic .and)
  | .mark "||=" => some (.logic .or)
  | .mark "??=" => some (.logic .fallback)
  | _ => none

/-- A value, or a choice between two, with what it is assigned to. -/
def readAssigned (g : Grammar) (setting : Setting) : Reader Tree := do
  let left ← g.binary 0 setting
  if ← takesMark "?" then
    let yes ← g.assignment { setting with isIn := true }
    mark ":"
    return .choice left yes (← g.assignment setting)
  else if ← isMark "=" then
    require (setting.isPlace left)
    advance
    let value ← g.assignment setting
    return .assign left value
  else match assigned? (← token) with
    | none => return left
    | some op =>
      require (setting.isPlace left)
      advance
      let value ← g.assignment setting
      match op with
      | .binary op => return .update op left.bare value
      | .logic op => return .logicUpdate op left.bare value

/-- The parts of a record or a list put to their places. -/
def readPartsAssigned (g : Grammar) (setting : Setting) : Reader Tree := do
  let target ← g.target false { setting with isIn := true }
  mark "="
  return .assign target (← g.assignment setting)

/-- A value that a generator hands out, after the word `yield`. -/
def readYield (g : Grammar) (setting : Setting) : Reader Tree := do
  if ← opensLine then return .yielded .absent false
  else if ← takesMark "*" then return .yielded (← g.assignment setting) true
  else match ← token with
    | .mark text =>
      if [")", "]", "\x7d", ",", ";", ":"].contains text then return .yielded .absent false
      else return .yielded (← g.assignment setting) false
    | .finish => return .yielded .absent false
    | .name "in" false | .name "of" false => return .yielded .absent false
    | _ => return .yielded (← g.assignment setting) false

def readAssignment (g : Grammar) (setting : Setting) : Reader Tree := do
  match ← token with
  | .name "yield" false =>
    if setting.yields then
      require !setting.inParameters
      advance
      readYield g setting
    else readArrow g setting <|> readAssigned g setting
  | .name _ _ | .mark "(" => readArrow g setting <|> readAssigned g setting
  | .mark "[" | .mark "\x7b" => readPartsAssigned g setting <|> readAssigned g setting
  | _ => readAssigned g setting

/-- The key of a part of a record. -/
def readField (g : Grammar) (isDeclared : Bool) (setting : Setting) : Reader Tree := do
  let first ← token
  let key ← readKey g setting
  if ← takesMark ":" then return .field key (← readElement g isDeclared setting)
  else match first with
    | .name text _ =>
      require (if isDeclared then setting.declares text else setting.isPlace (.name text))
      let default ← if ← takesMark "=" then g.assignment setting else pure .absent
      return .field key (.element (.name text) default)
    | _ => failure

/-- The target that takes the rest, before the closing mark. The rest of a record is not taken
apart. -/
def readRest (g : Grammar) (isDeclared : Bool) (setting : Setting) (close : String) :
    Reader Tree := do
  if ← takesMark "..." then
    require (close == "]" || !((← isMark "[") || (← isMark "\x7b")))
    let rest ← g.target isDeclared setting
    mark close
    return rest
  else
    mark close
    return .absent

/-- Where the parts of a record or a list are put. -/
def readParts (g : Grammar) (isDeclared : Bool) (setting : Setting) : Reader Tree := do
  let setting := { setting with isIn := true }
  if ← takesMark "\x7b" then
    let fields ← items do
      if (← isMark "\x7d") || (← isMark "...") then return none
      let field ← readField g isDeclared setting
      if !(← isMark "\x7d") then mark ","
      return some field
    return .recordTarget fields (← readRest g isDeclared setting "\x7d")
  else
    mark "["
    let elements ← items do
      if (← isMark "]") || (← isMark "...") then return none
      if ← takesMark "," then return some .hole
      let element ← readElement g isDeclared setting
      if !(← isMark "]") then mark ","
      return some element
    return .listTarget elements (← readRest g isDeclared setting "]")

/-- A place by itself, which may be a member only if it is not declared. -/
def readPlace (g : Grammar) (readClass : Setting → Reader Tree) (isDeclared : Bool)
    (setting : Setting) : Reader Tree := do
  if isDeclared then return .name (← declaredName setting)
  else
    let place ← readOperand g readClass true setting
    require (setting.isPlace place)
    return place

/-- No member or call follows the target. -/
def endsTarget : Reader Unit := do
  match ← token with
  | .mark text => require ([",", "]", "\x7d", "=", ")"].contains text)
  | .name text false => require (text == "of" || text == "in")
  | _ => failure

def readTarget (g : Grammar) (readClass : Setting → Reader Tree) (isDeclared : Bool)
    (setting : Setting) : Reader Tree := do
  if (← isMark "\x7b") || (← isMark "[") then
    if isDeclared then readParts g isDeclared setting
    else (do
      let target ← readParts g isDeclared setting
      endsTarget
      return target) <|> readPlace g readClass isDeclared setting
  else readPlace g readClass isDeclared setting

end FootprintTemplate.Script
