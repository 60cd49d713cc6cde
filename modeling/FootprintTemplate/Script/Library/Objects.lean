import FootprintTemplate.Script.Library.Native

/-! Objects of any kind, and operations on them that never fail loudly. -/
namespace FootprintTemplate.Script.Library

open Run
open Text (Units units)

namespace Objects

def key (call : Call) (i : Nat) : Run Key :=
  Coerce.toKey call.machine (call.argument i)

/-- An argument as an object. -/
def subject (call : Call) (i : Nat) : Run Nat :=
  Coerce.toObject (call.argument i)

/-- An argument that has to be an object. -/
def required (call : Call) (i : Nat) : Run Nat :=
  match call.argument i with
  | .object id => return id
  | _ => failType "expected an object"

def description (call : Call) (value : Value) : Run Description :=
  match value with
  | .object id => Member.description call.machine id
  | _ => failType "property descriptor must be an object"

def maker (call : Call) : Run Value := do
  match call.newTarget, call.argument 0 with
  | some _, value =>
    let isOwn ← match call.newTarget with
      | some id =>
        match (← Run.object id).kind with
        | .native home post _ => pure (home == "Object" && post == .maker)
        | _ => pure false
      | none => pure true
    if isOwn && !value.isNothing then return .object (← Coerce.toObject value)
    else call.make .object .plain
  | none, value =>
    if value.isNothing then makeRecord [] else return .object (← Coerce.toObject value)

def isShown (call : Call) (id : Nat) (key : Key) : Run Bool := do
  return ((← Member.own? call.machine id key).map Slot.isEnumerable).getD false

/-- The own keys that are texts and listed. -/
def shownKeys (call : Call) (id : Nat) : Run (List Key) := do
  ((← Member.keys call.machine id).filter Key.isText).filterM (isShown call id)

def pair (first second : Value) : Run Value :=
  makeList [first, second]

def list (call : Call) (listing : Listing) : Run Value := do
  let id ← subject call 0
  let keys ← (← Member.keys call.machine id).filterMapM fun key => do
    if !key.isText || !(← isShown call id key) then return none
    match listing with
    | .keys => return some key.value
    | .values => return some (← Member.get call.machine id key)
    | .entries => return some (← pair key.value (← Member.get call.machine id key))
  makeList keys

def assign (call : Call) : Run Value := do
  let id ← subject call 0
  for source in call.arguments.drop 1 do
    if !source.isNothing then
      let giver ← Coerce.toObject source
      for key in ← Member.keys call.machine giver do
        if ← isShown call giver key then
          Member.put call.machine id key (← Member.get call.machine giver key)
  return .object id

def defineAll (call : Call) (id : Nat) (descriptions : Value) : Run Unit := do
  let source ← Coerce.toObject descriptions
  let found ← (← Member.keys call.machine source).filterMapM fun key => do
    if !(← isShown call source key) then return none
    return some (key, ← description call (← Member.get call.machine source key))
  for (key, description) in found do
    Member.defineOrFail call.machine id key description

def create (call : Call) : Run Value := do
  let prototype ← match call.argument 0 with
    | .object id => pure (some id)
    | .null => pure none
    | _ => failType "object prototype may only be an Object or null"
  let id ← allocate { prototype }
  if call.argument 1 != .undefined then defineAll call id (call.argument 1)
  return .object id

def defineProperties (call : Call) : Run Value := do
  let id ← required call 0
  defineAll call id (call.argument 1)
  return .object id

def defineProperty (call : Call) : Run Value := do
  let id ← required call 0
  let key ← key call 1
  Member.defineOrFail call.machine id key (← description call (call.argument 2))
  return .object id

/-- How far an object is closed to changes. -/
inductive Closing where
  | sealed
  | frozen
deriving DecidableEq

/-- Closes an object and its members. -/
def close (call : Call) (closing : Closing) (id : Nat) : Run Unit := do
  if !(← Member.closeWithin call.machine Member.reach id) then failType "cannot prevent extensions"
  for key in ← Member.keys call.machine id do
    match ← Member.own? call.machine id key with
    | some (.data _ _ _ _) =>
      Member.defineOrFail call.machine id key
        { configurable := some false
          writable := if closing == .frozen then some false else none }
    | some _ => Member.defineOrFail call.machine id key { configurable := some false }
    | none => pure ()

def closed (closing : Closing) (call : Call) : Run Value := do
  match call.argument 0 with
  | .object id => close call closing id
  | _ => pure ()
  return call.argument 0

def isClosed (closing : Closing) (call : Call) : Run Value := do
  match call.argument 0 with
  | .object id =>
    if ← Member.isExtensibleWithin call.machine Member.reach id then return .truth false
    let slots ← (← Member.keys call.machine id).filterMapM (Member.own? call.machine id)
    return .truth (slots.all fun slot => !slot.isConfigurable &&
      match slot with
      | .data _ writable _ _ => closing == .sealed || !writable
      | _ => true)
  | _ => return .truth true

def fromEntries (call : Call) : Run Value := do
  let record ← makeRecord []
  match record with
  | .object id =>
    let walker ← Walker.start call.machine (call.argument 0)
    walker.forEach call.machine fun entry => do
      match entry with
      | .object item =>
        let key ← Coerce.toKey call.machine (← Member.get call.machine item (.index 0))
        Member.create call.machine id key (← Member.get call.machine item (.index 1))
      | _ => failType "cannot get key and value from primitive item of iterable"
  | _ => pure ()
  return record

def ownDescription (call : Call) : Run Value := do
  let id ← subject call 0
  match ← Member.own? call.machine id (← key call 1) with
  | some slot => Member.describe slot
  | none => return .undefined

def ownDescriptions (call : Call) : Run Value := do
  let id ← subject call 0
  let slots ← (← Member.keys call.machine id).filterMapM fun key => do
    match ← Member.own? call.machine id key with
    | some slot => return some (key, Slot.ordinary (← Member.describe slot))
    | none => return none
  makeRecord slots

def ownNames (call : Call) : Run Value := do
  makeList (((← Member.keys call.machine (← subject call 0)).filter Key.isText).map Key.value)

def ownSymbols (call : Call) : Run Value := do
  makeList (((← Member.keys call.machine (← subject call 0)).filter (!·.isText)).map Key.value)

def prototypeOf (call : Call) : Run Value := do
  return .ofId? (← Member.prototype call.machine (← subject call 0))

/-- Values put together by the key that a routine gives for each. -/
def groups (call : Call) : Run (List (Value × List Value)) := do
  let routine ← call.routine 1
  let values ← Iterate.all call.machine (call.argument 0)
  let keyed ← values.mapIdxM fun i value => do
    return (← call.machine.call routine .undefined [value, .ofNat i], value)
  let keys := keyed.foldl (fun keys (key, _) =>
    if keys.any key.same then keys else keys ++ [key]) []
  return keys.map fun key => (key, (keyed.filter fun item => key.same item.1).map Prod.snd)

def groupBy (call : Call) : Run Value := do
  let id ← allocate { prototype := none }
  for (key, values) in ← groups call do
    let key ← Coerce.toKey call.machine key
    let before ← match ← Member.get call.machine id key with
      | .object list => Coerce.itemsOf call.machine (.object list)
      | _ => pure []
    Member.create call.machine id key (← makeList (before ++ values))
  return .object id

def setPrototypeOf (call : Call) : Run Value := do
  let target := call.argument 0
  if target.isNothing then failType "cannot convert 'null' or 'undefined' to object"
  let base ← match call.argument 1 with
    | .object id => pure (some id)
    | .null => pure none
    | _ => failType "prototype must be an object or null"
  match target with
  | .object id =>
    if !(← Member.setPrototypeWithin call.machine Member.reach id base) then
      failType "can't set prototype of this object"
    return target
  | _ => return target

def preventExtensions (call : Call) : Run Value := do
  match call.argument 0 with
  | .object id =>
    if !(← Member.closeWithin call.machine Member.reach id) then
      failType "cannot prevent extensions"
  | _ => pure ()
  return call.argument 0

def isExtensible (call : Call) : Run Value := do
  match call.argument 0 with
  | .object id => return .truth (← Member.isExtensibleWithin call.machine Member.reach id)
  | _ => return .truth false

def hasOwnKey (call : Call) : Run Value := do
  let key ← key call 0
  return .truth (← Member.own? call.machine (← call.object) key).isSome

def isEnumerable (call : Call) : Run Value := do
  let key ← key call 0
  return .truth (← isShown call (← call.object) key)

def isPrototypeOf (call : Call) : Run Value := do
  match call.argument 0 with
  | .object id =>
    let base ← call.object
    let rec go : Nat → Nat → Run Bool
      | 0, _ => return false
      | fuel + 1, id => do
        match ← Member.prototype call.machine id with
        | none => return false
        | some next => if next == base then return true else go fuel next
    return .truth (← go Member.reach id)
  | _ => return .truth false

/-- The word for the kind of an object. -/
def kindName (id : Nat) : Run String := do
  if ← Coerce.isList (.object id) then return "Array"
  let object ← Run.object id
  match object.kind with
  | .arguments => return "Arguments"
  | .failure => return "Error"
  | .wrapped (.truth _) => return "Boolean"
  | .wrapped (.number _) => return "Number"
  | .wrapped (.text _) => return "String"
  | .date _ => return "Date"
  | .regex _ _ _ => return "RegExp"
  | _ => return if object.isCallable then "Function" else "Object"

def toText (call : Call) : Run Value := do
  match call.this with
  | .undefined => return .ofString "[object Undefined]"
  | .null => return .ofString "[object Null]"
  | this =>
    let id ← Coerce.toObject this
    let kind ← kindName id
    let name ← match ← Member.get call.machine id Sign.toStringTag.key with
      | .text tag => pure tag
      | _ => pure (units kind)
    return .text (units "[object " ++ name ++ units "]")

def toLocaleText (call : Call) : Run Value := do
  match ← Coerce.methodOf? call.machine call.this (.ofString "toString") with
  | some method => call.machine.call method call.this []
  | none => failType "not a callable function"

/-- The base of `this` as a member of every object. -/
def getBase (call : Call) : Run Value := do
  return .ofId? (← Member.prototype call.machine (← call.object))

def setBase (call : Call) : Run Value := do
  if call.this.isNothing then failType "cannot convert 'null' or 'undefined' to object"
  let set (base : Option Nat) : Run Unit := do
    match call.this with
    | .object id =>
      if !(← Member.setPrototypeWithin call.machine Member.reach id base) then
        failType "can't set prototype of this object"
    | _ => pure ()
  match call.argument 0 with
  | .object base => set (some base)
  | .null => set none
  | _ => pure ()
  return .undefined

def defineAccessor (kind : AccessorKind) (call : Call) : Run Value := do
  let id ← call.object
  let routine ← call.routine 1
  let description : Description := match kind with
    | .getter => { getter := some routine }
    | .setter => { setter := some routine }
  Member.defineOrFail call.machine id (← key call 0)
    { description with enumerable := some true, configurable := some true }
  return .undefined

def lookupAccessor (kind : AccessorKind) (call : Call) : Run Value := do
  let key ← key call 0
  let rec go : Nat → Nat → Run Value
    | 0, _ => return .undefined
    | fuel + 1, id => do
      match ← Member.own? call.machine id key with
      | some (.accessor getter setter _ _) =>
        return match kind with
          | .getter => getter
          | .setter => setter
      | some _ => return .undefined
      | none =>
        match ← Member.prototype call.machine id with
        | some next => go fuel next
        | none => return .undefined
  go Member.reach (← call.object)

def family : Family where
  name := "Object"
  maker := some ⟨"Object", 1, maker⟩
  base := some .object
  own := [⟨"assign", 2, assign⟩, ⟨"create", 2, create⟩, ⟨"defineProperties", 2, defineProperties⟩,
    ⟨"defineProperty", 3, defineProperty⟩, ⟨"entries", 1, (list · .entries)⟩,
    ⟨"freeze", 1, closed .frozen⟩, ⟨"fromEntries", 1, fromEntries⟩,
    ⟨"getOwnPropertyDescriptor", 2, ownDescription⟩,
    ⟨"getOwnPropertyDescriptors", 1, ownDescriptions⟩, ⟨"getOwnPropertyNames", 1, ownNames⟩,
    ⟨"getOwnPropertySymbols", 1, ownSymbols⟩, ⟨"getPrototypeOf", 1, prototypeOf⟩,
    ⟨"groupBy", 2, groupBy⟩,
    ⟨"hasOwn", 2, fun call => do
      let id ← subject call 0
      return .truth (← Member.own? call.machine id (← key call 1)).isSome⟩,
    ⟨"is", 2, fun call => return .truth ((call.argument 0).same (call.argument 1))⟩,
    ⟨"isExtensible", 1, isExtensible⟩, ⟨"isFrozen", 1, isClosed .frozen⟩,
    ⟨"isSealed", 1, isClosed .sealed⟩, ⟨"keys", 1, (list · .keys)⟩,
    ⟨"preventExtensions", 1, preventExtensions⟩, ⟨"seal", 1, closed .sealed⟩,
    ⟨"setPrototypeOf", 2, setPrototypeOf⟩, ⟨"values", 1, (list · .values)⟩]
  shared := [⟨"hasOwnProperty", 1, hasOwnKey⟩, ⟨"isPrototypeOf", 1, isPrototypeOf⟩,
    ⟨"propertyIsEnumerable", 1, isEnumerable⟩, ⟨"toLocaleString", 0, toLocaleText⟩,
    ⟨"toString", 0, toText⟩,
    ⟨"valueOf", 0, fun call => do return .object (← call.object)⟩,
    ⟨"__defineGetter__", 2, defineAccessor .getter⟩,
    ⟨"__defineSetter__", 2, defineAccessor .setter⟩,
    ⟨"__lookupGetter__", 1, lookupAccessor .getter⟩,
    ⟨"__lookupSetter__", 1, lookupAccessor .setter⟩]
  computed := [⟨"__proto__", 0, getBase⟩, ⟨"=__proto__", 1, setBase⟩]

end Objects

namespace Reflection

open Objects (key required)

def construct (call : Call) : Run Value := do
  let maker := call.argument 0
  if !(← Coerce.isConstructor maker) then failType "target must be a constructor"
  let newTarget := if call.arguments.length > 2 then call.argument 2 else maker
  if !(← Coerce.isConstructor newTarget) then failType "newTarget must be a constructor"
  match maker, newTarget with
  | .object maker, .object newTarget =>
    call.machine.construct maker (← Coerce.itemsOf call.machine (call.argument 1)) newTarget
  | _, _ => return .undefined

def get (call : Call) : Run Value := do
  let id ← required call 0
  let receiver := if call.arguments.length > 2 then call.argument 2 else .object id
  Member.getWithin call.machine Member.reach id (← key call 1) receiver

def set (call : Call) : Run Value := do
  let id ← required call 0
  let receiver := if call.arguments.length > 3 then call.argument 3 else .object id
  let key ← key call 1
  return .truth (← Member.setWithin call.machine Member.reach id key (call.argument 2) receiver)

def setPrototypeOf (call : Call) : Run Value := do
  let id ← required call 0
  match call.argument 1 with
  | .object base =>
    return .truth (← Member.setPrototypeWithin call.machine Member.reach id (some base))
  | .null => return .truth (← Member.setPrototypeWithin call.machine Member.reach id none)
  | _ => failType "prototype must be an object or null"

def family : Family where
  name := "Reflect"
  tag := some "Reflect"
  own := [
    ⟨"apply", 3, fun call => do
      let routine ← call.routine 0
      call.machine.call routine (call.argument 1)
        (← Coerce.itemsOf call.machine (call.argument 2))⟩,
    ⟨"construct", 2, construct⟩,
    ⟨"defineProperty", 3, fun call => do
      let id ← required call 0
      let key ← key call 1
      return .truth (← Member.define call.machine id key
        (← Objects.description call (call.argument 2)))⟩,
    ⟨"deleteProperty", 2, fun call => do
      let id ← required call 0
      return .truth (← Member.delete call.machine id (← key call 1))⟩,
    ⟨"get", 2, get⟩,
    ⟨"getOwnPropertyDescriptor", 2, fun call => do
      let _ ← required call 0
      Objects.ownDescription call⟩,
    ⟨"getPrototypeOf", 1, fun call => do
      return .ofId? (← Member.prototype call.machine (← required call 0))⟩,
    ⟨"has", 2, fun call => do
      let id ← required call 0
      return .truth (← Member.has call.machine id (← key call 1))⟩,
    ⟨"isExtensible", 1, fun call => do
      return .truth (← Member.isExtensibleWithin call.machine Member.reach (← required call 0))⟩,
    ⟨"ownKeys", 1, fun call => do
      makeList ((← Member.keys call.machine (← required call 0)).map Key.value)⟩,
    ⟨"preventExtensions", 1, fun call => do
      return .truth (← Member.closeWithin call.machine Member.reach (← required call 0))⟩,
    ⟨"set", 3, set⟩, ⟨"setPrototypeOf", 2, setPrototypeOf⟩]

end Reflection

namespace Proxies

def make (call : Call) : Run Value := do
  match call.argument 0, call.argument 1 with
  | .object target, .object handler =>
    let callable ← Coerce.isCallable (.object target)
    let makes ← Coerce.isConstructor (.object target)
    return .object (← allocate
      { prototype := none, kind := .proxy (some target) (some handler) callable makes })
  | _, _ => failType "Proxy constructor requires object target and handler"

def maker (call : Call) : Run Value :=
  if call.newTarget.isNone then failType "cannot call Proxy constructor without 'new'"
  else make call

def family : Family where
  name := "Proxy"
  maker := some ⟨"Proxy", 2, maker⟩
  own := [⟨"revocable", 2, fun call => do
    let proxy ← make call
    let revoke ← Routines.make 0 ⟨Classes.defaultInfo .arrow, [], .absent, []⟩ none []
    makeRecord [(.ofString "proxy", .ordinary proxy),
      (.ofString "revoke", .ordinary (.object revoke))]⟩]

end Proxies

end FootprintTemplate.Script.Library
