import FootprintTemplate.Script.Evaluate.Class
import FootprintTemplate.Script.Evaluate.Operators
import FootprintTemplate.Script.Grammar
import FootprintTemplate.Script.Journal

/-! The values of expressions. -/
namespace FootprintTemplate.Script

open Run
open Text (Units units)

namespace Evaluate

def constant : Constant → Value
  | .null => .null
  | .truth b => .truth b
  | .number n => .number n
  | .integer n => .integer n
  | .text text => .text text

/-- The values of arguments or of the items of a list. -/
def items (m : Machine) (scope : Nat) : List Tree → Run (List Value)
  | [] => return []
  | .spread values :: rest => do
    let values ← Iterate.all m (← m.evaluate scope values)
    return values ++ (← items m scope rest)
  | tree :: rest => do
    let value ← m.evaluate scope tree
    return value :: (← items m scope rest)

/-- The items of a list and its length. A hole is no item. -/
def listItems (m : Machine) (scope : Nat) (i : Nat) : List Tree → Run (List (Nat × Slot) × Nat)
  | [] => return ([], i)
  | .hole :: rest => listItems m scope (i + 1) rest
  | .spread values :: rest => do
    let values ← Iterate.all m (← m.evaluate scope values)
    let (items, length) ← listItems m scope (i + values.length) rest
    return (values.mapIdx (fun j value => (i + j, Slot.ordinary value)) ++ items, length)
  | tree :: rest => do
    let value ← m.evaluate scope tree
    let (items, length) ← listItems m scope (i + 1) rest
    return ((i, .ordinary value) :: items, length)

def list (m : Machine) (scope : Nat) (trees : List Tree) : Run Value := do
  let (items, length) ← listItems m scope 0 trees
  return .object (← allocate
    { prototype := some Origin.list.id, kind := .list length true, items := items.toArray })

/-- Puts the members of a record into an object. -/
def members (m : Machine) (scope id : Nat) : List Tree → Run Unit
  | [] => return
  | .field key value :: rest => do
    let key ← Target.keyOf m scope key
    let name ← Classes.nameOfKey key
    Member.create m id key (← m.evaluate scope (value.named (Text.ofUnits name)))
    members m scope id rest
  | .prototype value :: rest => do
    match ← m.evaluate scope value with
    | .object base => update id fun object => { object with prototype := some base }
    | .null => update id fun object => { object with prototype := none }
    | _ => pure ()
    members m scope id rest
  | .spread values :: rest => do
    Target.copyMembers m (← m.evaluate scope values) [] id
    members m scope id rest
  | tree :: rest => do
    Classes.defineMethod m scope id id true tree
    members m scope id rest

def record (m : Machine) (scope : Nat) (trees : List Tree) : Run Value := do
  let id ← allocate { prototype := some Origin.object.id }
  members m scope id trees
  return .object id

/-- The text of a template with its values. -/
def stretches (m : Machine) (scope : Nat) : List Tree → Run Units
  | .stretch value text :: rest => do
    let own ← Coerce.toText m (← m.evaluate scope value)
    return own ++ text ++ (← stretches m scope rest)
  | _ => return []

/-- A list that cannot be changed. -/
def frozenList (values : List Value) : Run Nat := do
  let items := values.toArray.mapIdx fun i value => (i, Slot.data value false true false)
  allocate {
    prototype := some Origin.list.id
    extensible := false
    kind := .list values.length false
    items }

/-- The texts of a tagged template, with the texts as they are written. -/
def templateTexts (texts : List (Option Units)) (written : List Units) : Run Value := do
  let raw ← frozenList (written.map .text)
  let id ← frozenList (texts.map fun text => (text.map Value.text).getD .undefined)
  update id fun object => object.put (.ofString "raw") (.data (.object raw) false false false)
  return .object id

/-- A routine to call and the value that it is called on. -/
structure Callee where
  routine : Value
  this : Value

/-- A value, or the end of the chain where it is missing. -/
def linked (value : Value) : Run Value :=
  if value.isNothing then throw .missing else return value

def callee (m : Machine) (scope : Nat) : Tree → Run Callee
  | .enclosed inner => callee m scope inner
  | .link inner => do
    let found ← callee m scope inner
    let _ ← linked found.routine
    return found
  | .chain inner => do
    try callee m scope inner
    catch
      | .missing => return ⟨.undefined, .undefined⟩
      | stop => throw stop
  | .name own => do
    let place ← Names.resolve m scope own
    return ⟨← Names.read m place own, Names.ownerOf place⟩
  | .member owner key => do
    let owner ← m.evaluate scope owner
    let key ← m.evaluate scope key
    return ⟨← Target.Spot.read m (.member owner key), owner⟩
  | .secretMember owner own => do
    let owner ← m.evaluate scope owner
    return ⟨← Target.getSecret m owner (← Names.secretKey m scope own), owner⟩
  | .superMember key => do
    let this ← Names.this scope
    let key ← m.evaluate scope key
    return ⟨← Target.Spot.read m (.super (← Target.superBase m scope) this key), this⟩
  | tree => return ⟨← m.evaluate scope tree, .undefined⟩

/-- The setting of text that is run in a scope. -/
def settingIn (scope : Nat) : Run Setting := do
  let strict ← Target.isStrict scope
  match ← Names.frameOf scope with
  | some (_, frame) => return { strict, newTarget := true, superMembers := frame.home.isSome }
  | none => return { strict }

/-- Declares what text that is run in a scope declares. -/
def declareText (m : Machine) (outer inner : Nat) (program : Program) : Run Unit := do
  let target ← if program.strict then pure inner else Names.hoistingScope outer
  let routines := program.body.filter Tree.isRoutine
  for name in program.hoisted ++ routineNames program.body do
    match ← Names.resolve m outer name with
    | .binding id =>
      match (← Run.scope id).bindings.lookup name with
      | some ⟨_, .refused⟩ =>
        if !program.strict then fail .grammar "variable name already declared"
      | _ => pure ()
    | _ => pure ()
  let global := (← Run.scope target).owner
  for name in program.hoisted do
    match global with
    | some owner =>
      if !(← Member.has m owner (.ofString name)) then
        Member.create m owner (.ofString name) .undefined
    | none =>
      if !(← Names.isDeclared target name) then
        Names.declare target name { value := some .undefined }
  Routines.declareBlock inner (program.body.filter (!·.isRoutine))
  for tree in routines do
    match tree.unlabelled with
    | .routine info _ _ _ =>
      let name := info.name.getD ""
      let value ← Routines.makeOf inner none (units name) tree.unlabelled
      match global with
      | some owner => Member.create m owner (.ofString name) value
      | none => Names.declare target name { value := some value }
    | _ => pure ()

/-- Runs text in a scope; its value is that of its last expression. -/
def runText (m : Machine) (outer : Nat) (setting : Setting) (text : Units) : Run Value := do
  match parseIn setting (Text.ofUnits text).toList with
  | none => fail .grammar "the text is no script"
  | some program =>
    let inner ← openScope
      { parent := some outer, hoists := program.strict, strict := program.strict }
    declareText m outer inner program
    match ← Routines.executeAll m inner none program.body with
    | .normal value => return value.getD .undefined
    | _ => return .undefined

/-- The routine that runs text. -/
def isEval (value : Value) : Run Bool := do
  match value with
  | .object id =>
    match (← object id).kind with
    | .native home _ name => return home == "" && name == "eval"
    | _ => return false
  | _ => return false

def call (m : Machine) (scope : Nat) (tree : Tree) (arguments : List Tree) : Run Value := do
  let found ← callee m scope tree
  let values ← items m scope arguments
  let isDirect := match tree with
    | .name "eval" => true
    | _ => false
  if isDirect && (← isEval found.routine) then
    match values with
    | .text text :: _ => runText m scope (← settingIn scope) text
    | value :: _ => return value
    | [] => return .undefined
  else if ← Coerce.isCallable found.routine then m.call found.routine found.this values
  else failType "not a callable function"

def construct (m : Machine) (scope : Nat) (tree : Tree) (arguments : List Tree) : Run Value := do
  let maker ← m.evaluate scope tree
  let values ← items m scope arguments
  match maker, ← Coerce.isConstructor maker with
  | .object id, true => m.construct id values id
  | _, _ => failType "not a constructor"

def tagged (m : Machine) (scope : Nat) (tag : Tree) (texts : List (Option Units))
    (written : List Units) (values : List Tree) : Run Value := do
  let found ← callee m scope tag
  let first ← templateTexts texts written
  let values ← items m scope values
  if ← Coerce.isCallable found.routine then m.call found.routine found.this (first :: values)
  else failType "not a callable function"

def delete (m : Machine) (scope : Nat) (tree : Tree) : Run Value := do
  match tree.bare with
  | .member owner key =>
    let owner ← m.evaluate scope owner
    let key ← m.evaluate scope key
    let id ← Coerce.toObject owner
    let done ← Member.delete m id (← Coerce.toKey m key)
    if !done && (← Target.isStrict scope) then failType "Cannot delete property"
    return .truth done
  | .superMember _ => fail .reference "cannot delete a property of 'super'"
  | .name own =>
    match ← Names.resolve m scope own with
    | .binding _ => return .truth false
    | .member owner => return .truth (← Member.delete m owner (.ofString own))
    | .nowhere => return .truth true
  | tree =>
    let _ ← m.evaluate scope tree
    return .truth true

/-- The kind of a value, also of a name that stands for nothing. -/
def typeName (m : Machine) (scope : Nat) (tree : Tree) : Run Value := do
  match tree.bare with
  | .name own =>
    match ← Names.resolve m scope own with
    | .nowhere => return .ofString "undefined"
    | place => return .ofString (← Coerce.typeName (← Names.read m place own))
  | tree => return .ofString (← Coerce.typeName (← m.evaluate scope tree))

/-- The second operand decides. -/
def goesOn (op : LogicOp) (value : Value) : Bool :=
  match op with
  | .and => Coerce.isTrue value
  | .or => !(Coerce.isTrue value)
  | .fallback => value.isNothing

def step (m : Machine) (scope : Nat) (up before : Bool) (place : Tree) : Run Value := do
  let spot ← (← Target.spot m scope place).fixed m
  let (old, new) ← Operators.step m up (← spot.read m)
  spot.write m (← Target.isStrict scope) new
  return if before then new else old

def namedFor (place value : Tree) : Tree :=
  match place with
  | .name own => value.named own
  | _ => value

def update (m : Machine) (scope : Nat) (op : BinaryOp) (place value : Tree) : Run Value := do
  let spot ← (← Target.spot m scope place).fixed m
  let old ← spot.read m
  let result ← Operators.apply m op old (← m.evaluate scope value)
  spot.write m (← Target.isStrict scope) result
  return result

def logicUpdate (m : Machine) (scope : Nat) (op : LogicOp) (place value : Tree) : Run Value := do
  let spot ← (← Target.spot m scope place).fixed m
  let old ← spot.read m
  if goesOn op old then
    let result ← m.evaluate scope (namedFor place value)
    spot.write m (← Target.isStrict scope) result
    return result
  else return old

def assign (m : Machine) (scope : Nat) (target value : Tree) : Run Value := do
  match target with
  | .recordTarget _ _ | .listTarget _ _ =>
    let value ← m.evaluate scope value
    Target.put m scope false value target
    return value
  | target =>
    let spot ← Target.spot m scope target
    let value ← m.evaluate scope (namedFor target value)
    spot.write m (← Target.isStrict scope) value
    return value

def hasSecret (m : Machine) (scope : Nat) (own : String) (owner : Tree) : Run Value := do
  let key ← Names.secretKey m scope own
  match ← m.evaluate scope owner with
  | .object id => return .truth ((← object id).slot? key).isSome
  | value => Operators.failOperand "in" value

def makeRegex (source flags : Units) : Run Value := do
  match Regex.read? source flags with
  | some regex =>
    return .object (← allocate {
      prototype := some Origin.regex.id
      kind := .regex regex source flags
      slots := #[(.ofString "lastIndex", .data (.ofNat 0) true false false)] })
  | none => fail .grammar "invalid regular expression"

def newTarget (scope : Nat) : Run Value := do
  match ← Names.frameOf scope with
  | some (_, frame) =>
    match frame.newTarget with
    | some id => return .object id
    | none => return .undefined
  | none => return .undefined

def expression (m : Machine) (scope : Nat) (tree : Tree) : Run Value := do
  match tree with
  | .constant value => return constant value
  | .name own => Names.read m (← Names.resolve m scope own) own
  | .this => Names.this scope
  | .newTarget => newTarget scope
  | .template first rest => return .text (first ++ (← stretches m scope rest))
  | .tagged tag texts written values => tagged m scope tag texts written values
  | .regex source flags => makeRegex source flags
  | .list trees => list m scope trees
  | .record trees => record m scope trees
  | .routine info _ _ _ => Routines.makeOf scope none (units (info.name.getD "")) tree
  | .ofClass own knowsName parent maker trees =>
    Classes.make m scope own knowsName parent maker trees
  | .enclosed inner => m.evaluate scope inner
  | .unary .typeName operand => typeName m scope operand
  | .unary op operand => Operators.unary m op (← m.evaluate scope operand)
  | .delete operand => delete m scope operand
  | .step up before place => step m scope up before place
  | .binary op left right =>
    let left ← m.evaluate scope left
    Operators.apply m op left (← m.evaluate scope right)
  | .logic op left right =>
    let left ← m.evaluate scope left
    if goesOn op left then m.evaluate scope right else return left
  | .choice test yes no =>
    if Coerce.isTrue (← m.evaluate scope test) then m.evaluate scope yes else m.evaluate scope no
  | .assign target value => assign m scope target value
  | .update op place value => update m scope op place value
  | .logicUpdate op place value => logicUpdate m scope op place value
  | .sequence first second =>
    let _ ← m.evaluate scope first
    m.evaluate scope second
  | .member _ _ | .secretMember _ _ | .superMember _ => return (← callee m scope tree).routine
  | .hasSecret own owner => hasSecret m scope own owner
  | .call tree arguments => call m scope tree arguments
  | .superCall arguments => Routines.callSuper m scope (items m scope arguments)
  | .make tree arguments => construct m scope tree arguments
  | .chain links =>
    try m.evaluate scope links
    catch
      | .missing => return .undefined
      | stop => throw stop
  | .link owner => linked (← m.evaluate scope owner)
  | .yielded .absent _ => Journal.hand .undefined
  | .yielded value all =>
    let value ← m.evaluate scope value
    if all then Journal.handAll m value else Journal.hand value
  | .awaited value =>
    let _ ← m.evaluate scope value
    throw .waiting
  | .imported name =>
    let _ ← m.evaluate scope name
    Routines.makePromise
  | _ => return .undefined

end Evaluate

end FootprintTemplate.Script
