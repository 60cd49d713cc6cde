import FootprintTemplate.Script.Library.Native

/-! Routines as objects, and errors. -/
namespace FootprintTemplate.Script.Library

open Run
open Text (Units units)

namespace RoutineObjects

def target (call : Call) : Run Value := do
  if ← Coerce.isCallable call.this then return call.this
  else failType "not a callable function"

def apply (call : Call) : Run Value := do
  let routine ← target call
  let values ← if (call.argument 1).isNothing then pure []
    else Coerce.itemsOf call.machine (call.argument 1)
  call.machine.call routine (call.argument 0) values

def bind (call : Call) : Run Value := do
  match ← target call with
  | .object id =>
    let bound := call.arguments.drop 1
    let length ← match ← Member.own? call.machine id Object.lengthKey with
      | some _ =>
        match ← Member.get call.machine id Object.lengthKey with
        | .number n => pure (n.toInt.toNat - bound.length)
        | _ => pure 0
      | none => pure 0
    let name ← match ← Member.get call.machine id (.ofString "name") with
      | .text name => pure name
      | _ => pure []
    return .object (← allocate {
      prototype := ← Member.prototype call.machine id
      kind := .bound id (call.argument 0) bound
      slots := #[(Object.lengthKey, Routines.fixedSlot (.ofNat length)),
        (.ofString "name", Routines.fixedSlot (.text (units "bound " ++ name)))] })
  | _ => return .undefined

def sourceText (name : Units) : Units :=
  units "function " ++ name ++ units "() \x7b [native code] \x7d"

def toText (call : Call) : Run Value := do
  match call.this with
  | .object id =>
    match (← object id).kind with
    | .closure closure => return .text (sourceText (units (closure.routine.info.name.getD "")))
    | .native _ _ name => return .text (sourceText (units name))
    | .bound _ _ _ => return .text (sourceText [])
    | .proxy _ _ true _ => return .text (sourceText [])
    | _ => failType "not a function"
  | _ => failType "not a function"

/-- The text of a routine with the given parameters and body. -/
def textOf (word : String) (parameters : List Units) (body : Units) : Units :=
  units ("(" ++ word ++ " anonymous(") ++ List.flatten (parameters.intersperse (units ",")) ++
    units "\n) \x7b\n" ++ body ++ units "\n\x7d)"

/-- A routine from the texts of its parameters and its body. -/
def makeFrom (word : String) (call : Call) : Run Value := do
  let texts ← call.arguments.mapM (Coerce.toText call.machine)
  let parameters := texts.dropLast
  let body := texts.getLastD []
  match parse (Text.ofUnits (textOf word parameters body)).toList with
  | some { body := [.expression (.enclosed tree)], .. } =>
    match tree with
    | .routine info params rest body =>
      Routines.makeOf scriptScope none (units "anonymous")
        (.routine { info with knowsName := false } params rest body)
    | _ => fail .grammar "the text is no function"
  | _ => fail .grammar "the text is no function"

def family : Family where
  name := "Function"
  maker := some ⟨"Function", 1, makeFrom "function"⟩
  base := some .routine
  shared := [⟨"apply", 2, apply⟩, ⟨"bind", 1, bind⟩,
    ⟨"call", 1, fun call => do
      call.machine.call (← target call) (call.argument 0) (call.arguments.drop 1)⟩,
    ⟨"toString", 0, toText⟩,
    ⟨"@@hasInstance", 1, fun call => do
      return .truth (← Operators.isOrdinaryInstance call.machine 100 (call.argument 0) call.this)⟩]

def asyncFamily : Family where
  name := "AsyncFunction"
  maker := some ⟨"AsyncFunction", 1, makeFrom "async function"⟩
  base := some .asyncRoutine
  isGlobal := false
  tag := some "AsyncFunction"

def generatorFamily : Family where
  name := "GeneratorFunction"
  maker := some ⟨"GeneratorFunction", 1, makeFrom "function*"⟩
  base := some .generatorRoutine
  isGlobal := false
  tag := some "GeneratorFunction"

end RoutineObjects

namespace Failures

/-- Gives an error the members that its options ask for. -/
def addCause (call : Call) (id : Nat) (options : Value) : Run Unit := do
  match options with
  | .object options =>
    if ← Member.has call.machine options (.ofString "cause") then
      let cause ← Member.get call.machine options (.ofString "cause")
      update id fun object => object.put (.ofString "cause") (.hidden cause)
  | _ => return

def makeAt (kind : ErrorKind) (place : Nat) (call : Call) : Run Nat := do
  let base ← call.base (.error kind)
  let id ← allocate { prototype := some base, kind := .failure }
  if call.argument place != .undefined then
    let text ← call.text place
    update id fun object => object.put (.ofString "message") (.hidden (.text text))
  addCause call id (call.argument (place + 1))
  return id

def make (kind : ErrorKind) (call : Call) : Run Value := do
  return .object (← makeAt kind 0 call)

def makeAggregate (call : Call) : Run Value := do
  let id ← makeAt .aggregate 1 call
  let errors ← makeList (← Iterate.all call.machine (call.argument 0))
  update id fun object => object.put (.ofString "errors") (.hidden errors)
  return .object id

def partText (call : Call) (id : Nat) (name default : String) : Run Units := do
  match ← Member.get call.machine id (.ofString name) with
  | .undefined => return units default
  | value => Coerce.toText call.machine value

def toText (call : Call) : Run Value := do
  match call.this with
  | .object id =>
    let name ← partText call id "name" "Error"
    let message ← partText call id "message" ""
    return .text (if name.isEmpty then message else if message.isEmpty then name
      else name ++ units ": " ++ message)
  | _ => failType "'this' is not an object"

def family (kind : ErrorKind) : Family where
  name := kind.name
  maker := some (if kind == .aggregate then ⟨kind.name, 2, makeAggregate⟩
    else ⟨kind.name, 1, make kind⟩)
  base := some (.error kind)
  sharedConstants := [("name", .ofString kind.name), ("message", .ofString "")]
  shared := if kind == .error then [⟨"toString", 0, toText⟩] else []

end Failures

end FootprintTemplate.Script.Library
