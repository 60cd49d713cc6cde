import FootprintTemplate.Script.Value

/-! Members of objects: how they are found, changed, listed and removed. -/
namespace FootprintTemplate.Script

open Number (Double)
open Text (Units units)

namespace Value

/-- Same value, where NaN is like itself and the two zeros differ. -/
def same : Value → Value → Bool
  | .number a, .number b => a.same b
  | a, b => a == b

def ofNat (n : Nat) : Value :=
  .number (.ofNat n)

def ofString (own : String) : Value :=
  .text (units own)

def isNothing : Value → Bool
  | .undefined | .null => true
  | _ => false

def id? : Value → Option Nat
  | .object own => some own
  | _ => none

def ofId? : Option Nat → Value
  | some own => .object own
  | none => .null

end Value

/-- What is asked of a member. -/
structure Description where
  value : Option Value := none
  getter : Option Value := none
  setter : Option Value := none
  writable : Option Bool := none
  enumerable : Option Bool := none
  configurable : Option Bool := none

namespace Description

def ofSlot : Slot → Description
  | .data value writable enumerable configurable =>
    { value, writable, enumerable, configurable }
  | .accessor getter setter enumerable configurable =>
    { getter, setter, enumerable, configurable }

def isAccessor (description : Description) : Bool :=
  description.getter.isSome || description.setter.isSome

def isData (description : Description) : Bool :=
  description.value.isSome || description.writable.isSome

/-- The slot of a new member. -/
def slot (description : Description) : Slot :=
  let enumerable := description.enumerable.getD false
  let configurable := description.configurable.getD false
  if description.isAccessor then
    .accessor (description.getter.getD .undefined) (description.setter.getD .undefined) enumerable
      configurable
  else
    .data (description.value.getD .undefined) (description.writable.getD false) enumerable
      configurable

/-- The slot of a member that is there already. -/
def merged (description : Description) (slot : Slot) : Slot :=
  let enumerable := description.enumerable.getD slot.isEnumerable
  let configurable := description.configurable.getD slot.isConfigurable
  match slot with
  | .data value writable _ _ =>
    if description.isAccessor then
      .accessor (description.getter.getD .undefined) (description.setter.getD .undefined)
        enumerable configurable
    else
      .data (description.value.getD value) (description.writable.getD writable) enumerable
        configurable
  | .accessor getter setter _ _ =>
    if description.isData then
      .data (description.value.getD .undefined) (description.writable.getD false) enumerable
        configurable
    else
      .accessor (description.getter.getD getter) (description.setter.getD setter) enumerable
        configurable

/-- A member that cannot be removed allows what changes nothing, and a value that is writable. -/
def fits (description : Description) (slot : Slot) : Bool :=
  let isSame (asked : Option Value) (value : Value) : Bool := asked.all (·.same value)
  slot.isConfigurable ||
    (description.configurable != some true && description.enumerable.all (· == slot.isEnumerable) &&
      match slot with
      | .data value writable _ _ =>
        !description.isAccessor &&
          (writable || (description.writable != some true && isSame description.value value))
      | .accessor getter setter _ _ =>
        !description.isData && isSame description.getter getter && isSame description.setter setter)

end Description

namespace Object

def isCallable (object : Object) : Bool :=
  match object.kind with
  | .closure _ | .native _ _ _ | .bound _ _ _ => true
  | .proxy _ _ callable _ => callable
  | _ => false

/-- The length of a list, or of a text that is an object. -/
def length? (object : Object) : Option (Nat × Bool) :=
  match object.kind with
  | .list length writable => some (length, writable)
  | .wrapped (.text text) => some (text.length, false)
  | _ => none

def lengthKey : Key :=
  .ofString "length"

/-- An own member, also one that follows from the kind of the object. -/
def own? (object : Object) (key : Key) : Option Slot :=
  match object.length? with
  | none => object.slot? key
  | some (length, writable) =>
    if key == lengthKey then some (.data (.ofNat length) writable false false)
    else match object.kind, key with
      | .wrapped (.text text), .index i =>
        match text[i]? with
        | some unit => some (.data (.text [unit]) false true false)
        | none => object.slot? key
      | _, _ => object.slot? key

/-- Defines a member without regard to the kind of the object, and tells if that is allowed. -/
def define (object : Object) (key : Key) (description : Description) : Object × Bool :=
  match object.own? key with
  | none =>
    if object.extensible then (object.put key description.slot, true) else (object, false)
  | some slot =>
    if description.fits slot then (object.put key (description.merged slot), true)
    else (object, false)

/-- Defines an item of a list, which may grow by it. -/
def defineItem (object : Object) (length : Nat) (writable : Bool) (i : Nat)
    (description : Description) : Object × Bool :=
  if i < length then object.define (.index i) description
  else if !writable then (object, false)
  else match object.define (.index i) description with
    | (object, true) => ({ object with kind := .list (i + 1) writable }, true)
    | (object, false) => (object, false)

/-- The items from a place on that cannot be removed. -/
def fixedFrom (object : Object) (length : Nat) : List Nat :=
  object.items.toList.filterMap fun (i, slot) =>
    if i ≥ length && !slot.isConfigurable then some (i + 1) else none

/-- A list with a shorter length, and whether all items beyond it could be removed. -/
def shortened (object : Object) (length : Nat) (writable : Bool) : Object × Bool :=
  let reached := (object.fixedFrom length).foldl max length
  ({ object with kind := .list reached writable, items := object.items.filter (·.1 < reached) },
    reached == length)

/-- Changes the length of a list, or whether it can be changed. -/
def defineLength (object : Object) (length : Nat) (writable : Bool) (asked : Option Nat)
    (description : Description) : Object × Bool :=
  let fits := description.configurable != some true && description.enumerable != some true &&
    !description.isAccessor && (writable || (description.writable != some true &&
      asked.all (· == length)))
  let stays := writable && description.writable.getD true
  if !fits then (object, false)
  else match asked with
    | none => ({ object with kind := .list length stays }, true)
    | some asked =>
      if asked ≥ length then ({ object with kind := .list asked stays }, true)
      else object.shortened asked stays

def isTextKey (key : Key) : Bool :=
  match key with
  | .text _ => true
  | _ => false

/-- Places in order, then texts, then symbols, each in the order in which they came. -/
def ownKeys (object : Object) : List Key :=
  let keys := object.slots.toList.map Prod.fst
  let places := object.items.toList.map Prod.fst
  let letters := match object.kind with
    | .wrapped (.text text) => List.range text.length
    | _ => []
  let length := if object.length?.isSome then [lengthKey] else []
  let symbols := keys.filter fun
    | .symbol _ => true
    | _ => false
  letters.map .index ++ (places.mergeSort (· ≤ ·)).map .index ++ length ++
    keys.filter isTextKey ++ symbols

end Object

namespace Member

open Run

/-- More steps than any chain of objects has. -/
def reach : Nat := 10000

/-- A routine that a handler gives instead of what its target does. -/
def trap? (m : Machine) (get : Nat → Key → Value → Run Value) (handler : Option Nat)
    (name : String) : Run (Option (List Value → Run Value)) := do
  match handler with
  | none => failType "proxy handler is null"
  | some handler =>
    match ← get handler (.ofString name) (.object handler) with
    | .undefined | .null => return none
    | routine => return some fun arguments => m.call routine (.object handler) arguments

def isTrue : Value → Bool
  | .undefined | .null | .truth false | .text [] | .integer 0 => false
  | .number n => !(n.isNaN || n.isZero)
  | _ => true

def keyOf : Value → Key
  | .symbol id => .symbol id
  | .text text => .ofUnits text
  | _ => .text []

/-- The slot that an object describes. -/
def descriptionOf (get : Nat → Key → Value → Run Value) (has : Nat → Key → Run Bool)
    (id : Nat) : Run Description := do
  let part (name : String) : Run (Option Value) := do
    if ← has id (.ofString name) then return some (← get id (.ofString name) (.object id))
    else return none
  let enumerable ← part "enumerable"
  let configurable ← part "configurable"
  let value ← part "value"
  let writable ← part "writable"
  let getter ← part "get"
  let setter ← part "set"
  let isRoutine (routine : Option Value) : Run Bool :=
    match routine with
    | none | some .undefined => return true
    | some (.object id) => return (← object id).isCallable
    | some _ => return false
  if !(← isRoutine getter) || !(← isRoutine setter) then
    failType "Getter/setter must be a function"
  if (getter.isSome || setter.isSome) && (value.isSome || writable.isSome) then
    failType ("Invalid property descriptor. Cannot both specify accessors and a value or " ++
      "writable attribute")
  return ⟨value, getter, setter, writable.map isTrue, enumerable.map isTrue,
    configurable.map isTrue⟩

def describe (slot : Slot) : Run Value :=
  let flags (enumerable configurable : Bool) : List (Key × Slot) :=
    [(.ofString "enumerable", .ordinary (.truth enumerable)),
      (.ofString "configurable", .ordinary (.truth configurable))]
  match slot with
  | .data value writable enumerable configurable =>
    makeRecord ([(.ofString "value", .ordinary value),
      (.ofString "writable", .ordinary (.truth writable))] ++ flags enumerable configurable)
  | .accessor getter setter enumerable configurable =>
    makeRecord ([(.ofString "get", .ordinary getter), (.ofString "set", .ordinary setter)] ++
      flags enumerable configurable)

/-- What an object describes of a member. -/
def describeAsked (description : Description) : Run Value :=
  makeRecord <| [("value", description.value), ("get", description.getter),
    ("set", description.setter), ("writable", description.writable.map .truth),
    ("enumerable", description.enumerable.map .truth),
    ("configurable", description.configurable.map .truth)].filterMap fun (name, value) =>
      value.map fun value => (.ofString name, .ordinary value)

/-- A length that a value asks for. -/
def lengthOf (value : Value) : Run Nat := do
  let n? : Option Double := match value with
    | .number n => some n
    | .truth b => some (.ofNat (if b then 1 else 0))
    | .null => some (.zero false)
    | .text text => (decimal? text).map Double.ofNat
    | _ => none
  match n? with
  | some n =>
    if n.isWhole && (n.toInt == (n.toUInt32 : Int)) then return n.toUInt32
    else fail .range "invalid array length"
  | none => fail .range "invalid array length"

/-- Defines an own member of an object that is no proxy. -/
def defineOwn (id : Nat) (key : Key) (description : Description) : Run Bool := do
  match (← object id).kind, key with
  | .list length writable, .index i =>
    exchange id fun object => object.defineItem length writable i description
  | .list length writable, key =>
    if key == Object.lengthKey then
      let asked ← description.value.mapM lengthOf
      exchange id fun object => object.defineLength length writable asked description
    else exchange id fun object => object.define key description
  | .wrapped (.text _), key =>
    let current ← object id
    match current.own? key, current.slot? key with
    | some slot, none => return description.fits slot
    | _, _ => exchange id fun object => object.define key description
  | _, key => exchange id fun object => object.define key description

/-- The target of a proxy, which may have been given up. -/
def targetOf (target : Option Nat) : Run Nat :=
  match target with
  | some target => return target
  | none => failType "proxy target is null"

mutual
/-- The value of a member, looked for along the bases of an object. -/
def getWithin (m : Machine) : Nat → Nat → Key → Value → Run Value
  | 0, _, _, _ => throw .exhausted
  | fuel + 1, id, key, receiver => do
    let current ← object id
    match current.kind with
    | .proxy target handler _ _ =>
      match key with
      | .secret _ => return .undefined
      | _ =>
        let target ← targetOf target
        match ← trap? m (getWithin m fuel) handler "get" with
        | some trap => trap [.object target, key.value, receiver]
        | none => getWithin m fuel target key receiver
    | _ =>
      match current.own? key with
      | some (.data value _ _ _) => return value
      | some (.accessor .undefined _ _ _) => return .undefined
      | some (.accessor getter _ _ _) => m.call getter receiver []
      | none =>
        match current.prototype with
        | some base => getWithin m fuel base key receiver
        | none => return .undefined

/-- The object or one of its bases has a member. -/
def hasWithin (m : Machine) : Nat → Nat → Key → Run Bool
  | 0, _, _ => throw .exhausted
  | fuel + 1, id, key => do
    let current ← object id
    match current.kind with
    | .proxy target handler _ _ =>
      let target ← targetOf target
      match ← trap? m (getWithin m fuel) handler "has" with
      | some trap => return isTrue (← trap [.object target, key.value])
      | none => hasWithin m fuel target key
    | _ =>
      if (current.own? key).isSome then return true
      else match current.prototype with
        | some base => hasWithin m fuel base key
        | none => return false

def ownWithin (m : Machine) : Nat → Nat → Key → Run (Option Slot)
  | 0, _, _ => throw .exhausted
  | fuel + 1, id, key => do
    let current ← object id
    match current.kind with
    | .proxy target handler _ _ =>
      let target ← targetOf target
      match ← trap? m (getWithin m fuel) handler "getOwnPropertyDescriptor" with
      | some trap =>
        match ← trap [.object target, key.value] with
        | .object found =>
          return some (← descriptionOf (getWithin m fuel) (hasWithin m fuel) found).slot
        | .undefined => return none
        | _ => failType "trap result is neither object nor undefined"
      | none => ownWithin m fuel target key
    | _ => return current.own? key

def defineWithin (m : Machine) : Nat → Nat → Key → Description → Run Bool
  | 0, _, _, _ => throw .exhausted
  | fuel + 1, id, key, description => do
    match (← object id).kind with
    | .proxy target handler _ _ =>
      let target ← targetOf target
      match ← trap? m (getWithin m fuel) handler "defineProperty" with
      | some trap =>
        return isTrue (← trap [.object target, key.value, ← describeAsked description])
      | none => defineWithin m fuel target key description
    | _ => defineOwn id key description

/-- Gives a member a value, which goes to the receiver unless a base has a routine for it. -/
def setWithin (m : Machine) : Nat → Nat → Key → Value → Value → Run Bool
  | 0, _, _, _, _ => throw .exhausted
  | fuel + 1, id, key, value, receiver => do
    let current ← object id
    match current.kind with
    | .proxy target handler _ _ =>
      let target ← targetOf target
      match ← trap? m (getWithin m fuel) handler "set" with
      | some trap => return isTrue (← trap [.object target, key.value, value, receiver])
      | none => setWithin m fuel target key value receiver
    | _ =>
      match current.own? key with
      | some (.accessor _ .undefined _ _) => return false
      | some (.accessor _ setter _ _) =>
        let _ ← m.call setter receiver [value]
        return true
      | some (.data _ writable _ _) =>
        if !writable then return false
        else if receiver == .object id then defineOwn id key { value }
        else setOwn m fuel key value receiver
      | none =>
        match current.prototype with
        | some base => setWithin m fuel base key value receiver
        | none => setOwn m fuel key value receiver

/-- Gives the receiver itself a value. -/
def setOwn (m : Machine) (fuel : Nat) (key : Key) (value receiver : Value) : Run Bool :=
  match fuel, receiver with
  | 0, _ => throw .exhausted
  | fuel + 1, .object receiver => do
    match ← ownWithin m fuel receiver key with
    | some (.accessor _ _ _ _) => return false
    | some (.data _ writable _ _) =>
      if writable then defineWithin m fuel receiver key { value } else return false
    | none => defineWithin m fuel receiver key (.ofSlot (.ordinary value))
  | _, _ => return false

def deleteWithin (m : Machine) : Nat → Nat → Key → Run Bool
  | 0, _, _ => throw .exhausted
  | fuel + 1, id, key => do
    let current ← object id
    match current.kind with
    | .proxy target handler _ _ =>
      let target ← targetOf target
      match ← trap? m (getWithin m fuel) handler "deleteProperty" with
      | some trap => return isTrue (← trap [.object target, key.value])
      | none => deleteWithin m fuel target key
    | _ =>
      match current.own? key with
      | none => return true
      | some slot =>
        if slot.isConfigurable then
          update id fun object => object.remove key
          return true
        else return false

def keysWithin (m : Machine) : Nat → Nat → Run (List Key)
  | 0, _ => throw .exhausted
  | fuel + 1, id => do
    let current ← object id
    match current.kind with
    | .proxy target handler _ _ =>
      let target ← targetOf target
      match ← trap? m (getWithin m fuel) handler "ownKeys" with
      | some trap =>
        match ← trap [.object target] with
        | .object found =>
          let count := match (← object found).kind with
            | .list length _ => length
            | _ => 0
          (List.range count).mapM fun i => do
            return keyOf (← getWithin m fuel found (.index i) (.object found))
        | _ => failType "ownKeys trap result is no object"
      | none => keysWithin m fuel target
    | _ => return current.ownKeys

def prototypeWithin (m : Machine) : Nat → Nat → Run (Option Nat)
  | 0, _ => throw .exhausted
  | fuel + 1, id => do
    let current ← object id
    match current.kind with
    | .proxy target handler _ _ =>
      let target ← targetOf target
      match ← trap? m (getWithin m fuel) handler "getPrototypeOf" with
      | some trap => return (← trap [.object target]).id?
      | none => prototypeWithin m fuel target
    | _ => return current.prototype

/-- An object is among the bases of another one, or is it. -/
def isBase (base : Nat) : Nat → Nat → Run Bool
  | 0, _ => return true
  | fuel + 1, id => do
    if id == base then return true
    match (← object id).prototype with
    | some next => isBase base fuel next
    | none => return false

def setPrototypeWithin (m : Machine) : Nat → Nat → Option Nat → Run Bool
  | 0, _, _ => throw .exhausted
  | fuel + 1, id, base => do
    let current ← object id
    match current.kind with
    | .proxy target handler _ _ =>
      let target ← targetOf target
      match ← trap? m (getWithin m fuel) handler "setPrototypeOf" with
      | some trap => return isTrue (← trap [.object target, .ofId? base])
      | none => setPrototypeWithin m fuel target base
    | _ =>
      if current.prototype == base then return true
      else if !current.extensible || id == Origin.object.id then return false
      else match base with
        | none => update id fun object => { object with prototype := none }; return true
        | some next =>
          if ← isBase id reach next then return false
          else
            update id fun object => { object with prototype := base }
            return true

def isExtensibleWithin (m : Machine) : Nat → Nat → Run Bool
  | 0, _ => throw .exhausted
  | fuel + 1, id => do
    let current ← object id
    match current.kind with
    | .proxy target handler _ _ =>
      let target ← targetOf target
      match ← trap? m (getWithin m fuel) handler "isExtensible" with
      | some trap => return isTrue (← trap [.object target])
      | none => isExtensibleWithin m fuel target
    | _ => return current.extensible

def closeWithin (m : Machine) : Nat → Nat → Run Bool
  | 0, _ => throw .exhausted
  | fuel + 1, id => do
    let current ← object id
    match current.kind with
    | .proxy target handler _ _ =>
      let target ← targetOf target
      match ← trap? m (getWithin m fuel) handler "preventExtensions" with
      | some trap => return isTrue (← trap [.object target])
      | none => closeWithin m fuel target
    | _ =>
      update id fun object => { object with extensible := false }
      return true
end

def get (m : Machine) (id : Nat) (key : Key) : Run Value :=
  getWithin m reach id key (.object id)

def has (m : Machine) (id : Nat) (key : Key) : Run Bool :=
  hasWithin m reach id key

def own? (m : Machine) (id : Nat) (key : Key) : Run (Option Slot) :=
  ownWithin m reach id key

def define (m : Machine) (id : Nat) (key : Key) (description : Description) : Run Bool :=
  defineWithin m reach id key description

def delete (m : Machine) (id : Nat) (key : Key) : Run Bool :=
  deleteWithin m reach id key

def keys (m : Machine) (id : Nat) : Run (List Key) :=
  keysWithin m reach id

def prototype (m : Machine) (id : Nat) : Run (Option Nat) :=
  prototypeWithin m reach id

/-- A key as messages show it. -/
def shownKey (key : Key) : String :=
  match key.units? with
  | some text => Text.ofUnits text
  | none => "Symbol()"

def failSet {α : Type} (key : Key) : Run α :=
  failType ("cannot set non-writable property: " ++ shownKey key)

/-- Gives a member a value or fails. -/
def put (m : Machine) (id : Nat) (key : Key) (value : Value) : Run Unit := do
  if !(← setWithin m reach id key value (.object id)) then failSet key

def defineOrFail (m : Machine) (id : Nat) (key : Key) (description : Description) : Run Unit := do
  if !(← define m id key description) then 
    failType ("cannot redefine property: " ++ shownKey key)

/-- A new member that can be read, changed, listed and removed. -/
def create (m : Machine) (id : Nat) (key : Key) (value : Value) : Run Unit :=
  defineOrFail m id key (.ofSlot (.ordinary value))

def description (m : Machine) (id : Nat) : Run Description :=
  descriptionOf (getWithin m reach) (has m) id

end Member

end FootprintTemplate.Script
