import FootprintTemplate.Script.Evaluate.Target
import FootprintTemplate.Script.Grammar.Names

/-! Routines: how they are made, called, and used to make objects. -/
namespace FootprintTemplate.Script

open Run
open Text (Units units)

namespace Routines

def fixedSlot (value : Value) : Slot :=
  .data value false false true

def originOf (info : RoutineInfo) : Origin :=
  if info.isGenerator then .generatorRoutine else if info.isAsync then .asyncRoutine else .routine

/-- An object for a routine with its length and name. -/
def allocateRoutine (closure : Closure) (name : Units) (base : Option Nat) : Run Nat :=
  allocate {
    prototype := base
    kind := .closure closure
    slots := #[(Object.lengthKey, fixedSlot (.ofNat closure.routine.arity)),
      (.ofString "name", fixedSlot (.text name))] }

/-- A routine that knows a scope. One that can make objects gets a base for them. -/
def make (scope : Nat) (routine : Routine) (home : Option Nat) (name : Units) : Run Nat := do
  let info := routine.info
  let scope ← match info.knowsName, info.name with
    | true, some own =>
      let inner ← Names.inner scope
      Names.declare inner own { value := none, change := .ignored }
      pure inner
    | _, _ => pure scope
  let id ← allocateRoutine { routine, scope, home } name (some (originOf info).id)
  if info.knowsName then
    match info.name with
    | some own => Names.settle scope own (.object id)
    | none => pure ()
  if info.isGenerator then
    let base ← allocate { prototype := some Origin.generator.id }
    update id fun object =>
      object.put (.ofString "prototype") (.data (.object base) true false false)
  else if info.form == .plain && !info.isAsync then
    let base ← allocate {
      prototype := some Origin.object.id
      slots := #[(.ofString "constructor", .hidden (.object id))] }
    update id fun object =>
      object.put (.ofString "prototype") (.data (.object base) true false false)
  return id

/-- The routine of a tree, if it is one. -/
def ofTree? : Tree → Option Routine
  | .routine info parameters rest body => some ⟨info, parameters, rest, body⟩
  | _ => none

/-- Makes the routine of a tree with a name. -/
def makeOf (scope : Nat) (home : Option Nat) (name : Units) (tree : Tree) : Run Value := do
  match ofTree? tree with
  | some routine => return .object (← make scope routine home name)
  | none => return .undefined

/-- More calls may not run within one another. -/
def depthLimit : Nat := 512

/-- Counts a call while it runs. -/
def deeper {α : Type} (run : Run α) : Run α := fun store =>
  if store.depth ≥ depthLimit then (.error .exhausted, store)
  else
    let (result, store) := run.run { store with depth := store.depth + 1 }
    (result, { store with depth := store.depth - 1 })

/-- The object that lists the arguments of a call. -/
def argumentsObject (strict : Bool) (callee : Nat) (arguments : List Value) : Run Value := do
  let own := #[(Object.lengthKey, Slot.hidden (.ofNat arguments.length)),
    (Sign.iterator.key, .hidden (← listValues))]
  let callee := if strict then #[] else #[(Key.ofString "callee", Slot.hidden (.object callee))]
  return .object (← allocate
    { prototype := some Origin.object.id
      kind := .arguments
      items := Object.itemsOf arguments
      slots := own ++ callee })
where
  listValues : Run Value := do
    match (← object Origin.list.id).slot? (.ofString "values") with
    | some (.data value _ _ _) => return value
    | _ => return .undefined

/-- `this` as the routine sees it: outside strict text it is always an object. -/
def seenThis (strict : Bool) (this : Value) : Run Value := do
  if strict then return this
  else if this.isNothing then return .object Origin.global.id
  else return .object (← Coerce.toObject this)

/-- Gives bare parameters their arguments. -/
def bindSimple (scope : Nat) : List Tree → List Value → Run Unit
  | [], _ => return
  | .element (.name own) _ :: rest, arguments => do
    Names.declare scope own { value := some (arguments.headD .undefined) }
    bindSimple scope rest (arguments.drop 1)
  | _ :: rest, arguments => bindSimple scope rest (arguments.drop 1)

def bindElements (m : Machine) (scope : Nat) : List Tree → List Value → Run Unit
  | [], _ => return
  | .element target default :: rest, arguments => do
    let value ← Target.orDefault m scope target default (arguments.headD .undefined)
    Target.put m scope true value target
    bindElements m scope rest (arguments.drop 1)
  | _ :: rest, arguments => bindElements m scope rest (arguments.drop 1)

def bindParameters (m : Machine) (scope : Nat) (routine : Routine) (arguments : List Value) :
    Run Unit := do
  if routine.info.isSimple then bindSimple scope routine.parameters arguments
  else
    for name in Tree.allBoundNames routine.parameters ++ routine.rest.boundNames do
      Names.declare scope name { value := none }
    bindElements m scope routine.parameters arguments
    match routine.rest with
    | .absent => return
    | rest =>
      Target.put m scope true (← makeList (arguments.drop routine.parameters.length)) rest

/-- Declares what a block declares. Routines have their values at once. -/
def declareBlock (scope : Nat) (body : List Tree) : Run Unit := do
  for tree in body do
    match tree.unlabelled with
    | .declare kind items =>
      if kind != .hoisted then
        for name in Tree.allBoundNames items do
          let change : Change := if kind == .constant then .refused else .free
          Names.declare scope name { value := none, change }
    | .ofClass (some own) _ _ _ _ => Names.declare scope own { value := none }
    | .routine info _ _ _ =>
      let name := info.name.getD ""
      let value ← makeOf scope none (units name) tree.unlabelled
      Names.declare scope name { value := some value }
    | _ => pure ()

/-- Declares hoisted names that are not there yet, with the values of parameters. -/
def declareHoisted (scope : Nat) (outer : Option Nat) (names : List String) : Run Unit := do
  for name in names do
    if !(← Names.isDeclared scope name) then
      let value ← match outer with
        | none => pure Value.undefined
        | some outer =>
          pure ((((← Run.scope outer).bindings.lookup name).bind (·.value)).getD .undefined)
      Names.declare scope name { value := some value }

/-- A scope for a call, with its arguments and declarations. -/
def enter (m : Machine) (id : Nat) (closure : Closure) (this : Option Value)
    (newTarget : Option Nat) (arguments : List Value) : Run Nat := do
  let routine := closure.routine
  let info := routine.info
  let isArrow := info.form == .arrow
  let scope ← openScope {
    parent := some closure.scope
    frame := if isArrow then none else some ⟨this, some id, newTarget, closure.home⟩
    hoists := true
    strict := info.strict }
  if !isArrow then
    let list ← argumentsObject (info.strict || !info.isSimple) id arguments
    Names.declare scope "arguments" { value := some list }
  bindParameters m scope routine arguments
  let inner ←
    if info.isSimple then pure scope
    else openScope { parent := some scope, hoists := true, strict := info.strict }
  declareHoisted inner (if info.isSimple then none else some scope) info.hoisted
  declareBlock inner routine.body
  return inner

/-- Runs statements up to one that does not end normally. -/
def executeAll (m : Machine) (scope : Nat) (value : Option Value) : List Tree → Run Completion
  | [] => return .normal value
  | tree :: rest => do
    match ← m.execute scope tree with
    | .normal next => executeAll m scope (next.or value) rest
    | .leave label next => return .leave label (next.or value)
    | .next label next => return .next label (next.or value)
    | .giveBack value => return .giveBack value

/-- Runs the body of a routine; the value that it gives back. -/
def runBody (m : Machine) (scope : Nat) (routine : Routine) : Run Value := do
  match ← executeAll m scope none routine.body with
  | .giveBack value => return value
  | _ => return .undefined

def makePromise : Run Value := do
  return .object (← allocate { prototype := some Origin.promise.id, kind := .promise })

/-- The outcome of an asynchronous routine: a promise, whatever comes of it. -/
def promised (run : Run Value) : Run Value := do
  try
    let _ ← run
  catch
    | .exhausted => throw .exhausted
    | _ => pure ()
  makePromise

/-- The base that a routine gives to the objects it makes. -/
def prototypeOf (m : Machine) (maker : Nat) (origin : Origin) : Run Nat := do
  match ← Member.get m maker (.ofString "prototype") with
  | .object id => return id
  | _ => return origin.id

def call (m : Machine) (id : Nat) (closure : Closure) (this : Value) (arguments : List Value) :
    Run Value := deeper do
  let info := closure.routine.info
  if closure.isClass then failType "class constructor cannot be invoked without 'new'"
  let start : Run Nat := do
    let this ← if info.form == .arrow then pure this else seenThis info.strict this
    enter m id closure (some this) none arguments
  if info.isGenerator then
    let scope ← start
    let base ← prototypeOf m id .generator
    return .object (← allocate
      { prototype := some base, kind := .generator (.waiting closure.routine scope {}) })
  else if info.isAsync then promised do runBody m (← start) closure.routine
  else runBody m (← start) closure.routine

/-- Gives a new object the members of its class. -/
def addMembers (m : Machine) (this : Value) (members : List OwnMember) : Run Unit := do
  match this with
  | .object id =>
    for member in members do
      match member with
      | .slot key slot =>
        if ((← object id).slot? key).isSome then failType "object already has the private name"
        update id fun object => object.put key slot
      | .field key maker =>
        let value ← match maker with
          | .undefined => pure Value.undefined
          | maker => m.call maker this []
        match key with
        | .secret _ =>
          if ((← object id).slot? key).isSome then failType "object already has the private name"
          update id fun object => object.put key (.ordinary value)
        | key => Member.create m id key value
  | _ => return

/-- What is made, if the body gives back no object of its own. -/
def made (scope : Nat) (derived : Bool) (result : Value) : Run Value := do
  match result with
  | .object _ => return result
  | .undefined => Names.this scope
  | _ =>
    if derived then failType "derived constructor can only return an Object or undefined"
    else Names.this scope

def construct (m : Machine) (id : Nat) (closure : Closure) (arguments : List Value)
    (newTarget : Nat) : Run Value := deeper do
  let derived := closure.routine.info.form == .derivedMaker
  let this ←
    if derived then pure none
    else do
      let base ← prototypeOf m newTarget .object
      let this := Value.object (← allocate { prototype := some base })
      addMembers m this closure.members
      pure (some this)
  let scope ← enter m id closure this (some newTarget) arguments
  made scope derived (← runBody m scope closure.routine)

/-- Settles `this` once the base of the class has made it. -/
def settleThis (scope : Nat) (this : Value) : Run Unit := do
  match ← Names.frameOf scope with
  | none => return
  | some (id, frame) =>
    if frame.this.isSome then fail .reference "super already called"
    updateScope id fun scope => { scope with frame := some { frame with this := some this } }

/-- Calls the base of a class from its maker. -/
def callSuper (m : Machine) (scope : Nat) (arguments : Run (List Value)) : Run Value := do
  match ← Names.frameOf scope with
  | some (_, { callee := some callee, newTarget := some newTarget, .. }) =>
    let parent := Value.ofId? (← Member.prototype m callee)
    let arguments ← arguments
    if !(← Coerce.isConstructor parent) then failType "super constructor is not a constructor"
    let this ← m.construct (parent.id?.getD 0) arguments newTarget
    settleThis scope this
    match (← object callee).kind with
    | .closure closure => addMembers m this closure.members
    | _ => pure ()
    return this
  | _ => fail .grammar "super() call outside constructor of a subclass"

end Routines

end FootprintTemplate.Script
