import FootprintTemplate.Script.Grammar.Names

/-! Routines and their parameters. -/
namespace FootprintTemplate.Script

open Reader

/-- A target with the value that it takes instead of undefined. -/
def readElement (g : Grammar) (isDeclared : Bool) (setting : Setting) : Reader Tree := do
  let target ← g.target isDeclared setting
  if ← takesMark "=" then
    return .element target (← g.assignment { setting with isIn := true })
  else return .element target .absent

/-- Parameters up to the closing parenthesis, and the one that takes the rest. -/
def readParameters (g : Grammar) (setting : Setting) : Reader (List Tree × Tree) := do
  let parameters ← items do
    if (← isMark ")") || (← isMark "...") then return none
    let parameter ← readElement g true setting
    if !(← isMark ")") then mark ","
    return some parameter
  if ← takesMark "..." then
    let rest ← g.target true setting
    mark ")"
    return (parameters, rest)
  else
    mark ")"
    return (parameters, .absent)

/-- Statements up to the closing brace. -/
def readStatements (g : Grammar) (setting : Setting) : Reader (List Tree) :=
  items do
    if ← takesMark "\x7d" then return none
    return some (← g.statement true setting)

/-- A text that stands as a statement at the start of a body makes the body strict. -/
def readDirectives : Nat → Reader Bool
  | 0 => failure
  | fuel + 1 => do
    match ← token with
    | .text value exact _ =>
      advance
      endStatement
      if exact && value == Text.units "use strict" then return true
      else readDirectives fuel
    | _ => return false

def isStrictAhead : Reader Bool := do
  return (← ahead (readDirectives maxParts)).getD false

def isBareParameter : Tree → Bool
  | .element (.name _) .absent => true
  | _ => false

/-- The setting of the inside of a routine. -/
def Setting.inside (setting : Setting) (form : RoutineForm) (isAsync isGenerator : Bool) :
    Setting :=
  let isArrow := form == .arrow
  { strict := setting.strict
    returns := true
    yields := isGenerator
    awaits := isAsync
    superMembers := form == .method || form == .maker || form == .derivedMaker ||
      (isArrow && setting.superMembers)
    superCalls := form == .derivedMaker || (isArrow && setting.superCalls)
    newTarget := !isArrow || setting.newTarget
    inClassField := isArrow && setting.inClassField }

/-- Reads the body of a routine after its opening brace. Its names are checked with those of the
parameters. -/
def readBody (g : Grammar) (inside : Setting) (info : RoutineInfo) (parameters : List Tree)
    (rest : Tree) : Reader Tree := do
  let isSimple := rest.isAbsent && parameters.all isBareParameter
  let names := Tree.allBoundNames parameters ++ rest.boundNames
  let strictHere ← isStrictAhead
  require (isSimple || !strictHere)
  let inside := { inside with strict := inside.strict || strictHere }
  require (names.all inside.declares && info.name.all fun name =>
    !info.knowsName || info.form != .plain || inside.declares name)
  require ((isSimple && !inside.strict && info.form == .plain) || isDistinct names)
  let (body, hoisted) ← declaring (readStatements g inside)
  require (isBody body hoisted names)
  return .routine { info with strict := inside.strict, hoisted, isSimple } parameters rest body

/-- Reads a routine from its parameters on. -/
def readRoutine (g : Grammar) (setting : Setting) (form : RoutineForm) (isAsync isGenerator : Bool)
    (name : Option String) : Reader Tree := do
  let inside := setting.inside form isAsync isGenerator
  mark "("
  let (parameters, rest) ← readParameters g { inside with returns := false, inParameters := true }
  mark "\x7b"
  readBody g inside ⟨form, isAsync, isGenerator, inside.strict, name, name.isSome, [], true⟩
    parameters rest

/-- Reads a routine after the word `function`. An expression may have no name. -/
def readNamedRoutine (g : Grammar) (setting : Setting) (isAsync isExpression : Bool) :
    Reader Tree := do
  let isGenerator ← takesMark "*"
  if isExpression && (← isMark "(") then
    readRoutine g setting .plain isAsync isGenerator none
  else
    let own := if isExpression then { setting with yields := isGenerator, awaits := isAsync }
      else setting
    let name ← declaredName own
    let routine ← readRoutine g setting .plain isAsync isGenerator (some name)
    match routine with
    | .routine info parameters rest body =>
      return .routine { info with knowsName := isExpression } parameters rest body
    | other => return other

/-- The body of an arrow routine after its arrow: a block, or the value that it gives back. -/
def readArrowBody (g : Grammar) (setting : Setting) (isAsync : Bool) (parameters : List Tree)
    (rest : Tree) : Reader Tree := do
  let inside := setting.inside .arrow isAsync false
  let info : RoutineInfo := ⟨.arrow, isAsync, false, setting.strict, none, false, [], true⟩
  if ← takesMark "\x7b" then readBody g inside info parameters rest
  else
    let names := Tree.allBoundNames parameters ++ rest.boundNames
    require (isDistinct names && names.all inside.declares)
    let (value, _) ← declaring (g.assignment { inside with isIn := setting.isIn })
    return .routine { info with isSimple := rest.isAbsent && parameters.all isBareParameter }
      parameters rest [.giveBack value]

/-- An arrow stands here, on the line of what precedes it. -/
def takesArrow : Reader Unit := do
  require !(← opensLine)
  mark "=>"

/-- The parameters of an arrow routine: a name, or a list in parentheses. -/
def readArrowParameters (g : Grammar) (setting : Setting) : Reader (List Tree × Tree) := do
  if ← takesMark "(" then readParameters g setting
  else return ([.element (.name (← declaredName setting)) .absent], .absent)

def readArrow (g : Grammar) (setting : Setting) : Reader Tree :=
  (do
    word "async"
    require !(← opensLine)
    let (parameters, rest) ← readArrowParameters g
      { setting with awaits := true, isIn := true, inParameters := true }
    takesArrow
    readArrowBody g setting true parameters rest) <|>
  (do
    let (parameters, rest) ← readArrowParameters g
      { setting with isIn := true, inParameters := true }
    takesArrow
    readArrowBody g setting false parameters rest)

end FootprintTemplate.Script
