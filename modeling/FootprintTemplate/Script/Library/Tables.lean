import FootprintTemplate.Script.Library.Objects

/-! Maps and sets, those that keep only objects, and references. -/
namespace FootprintTemplate.Script.Library.Tables

open Run

abbrev Entries := Array (Option (Value × Value))

/-- A key without the sign of a zero. -/
def plainKey : Value → Value
  | .number n => .number (if n.isZero then .zero false else n)
  | value => value

def place? (entries : Entries) (key : Value) : Option Nat :=
  entries.findIdx? fun entry => entry.any (·.1.same (plainKey key))

def put (entries : Entries) (key value : Value) : Entries :=
  match place? entries key with
  | some i => entries.setIfInBounds i (some (plainKey key, value))
  | none => entries.push (some (plainKey key, value))

def wrong {α : Type} : Run α :=
  failType "'this' is not a table of the kind"

/-- `this` as a map or a set, with its entries. -/
def subject (isSet : Bool) (call : Call) : Run (Nat × Entries) := do
  match call.this with
  | .object id =>
    match (← object id).kind with
    | .table kind entries => if kind == isSet then return (id, entries) else wrong
    | _ => wrong
  | _ => wrong

def setEntries (id : Nat) (isSet : Bool) (entries : Entries) : Run Unit :=
  update id fun object => { object with kind := .table isSet entries }

/-- Hands the items of the first argument to a method of the new object. -/
def fillFrom (call : Call) (made : Value) (method : String) (isPair : Bool) : Run Unit := do
  let m := call.machine
  if (call.argument 0).isNothing then return
  match made with
  | .object id =>
    let add ← Member.get m id (.ofString method)
    if !(← Coerce.isCallable add) then failType "not a callable function"
    let walker ← Walker.start m (call.argument 0)
    walker.forEach m fun item => do
      if isPair then
        match item with
        | .object item =>
          let key ← Member.get m item (.index 0)
          let _ ← m.call add made [key, ← Member.get m item (.index 1)]
        | _ => failType "cannot get key and value from primitive item of iterable"
      else
        let _ ← m.call add made [item]
  | _ => return

def maker (origin : Origin) (kind : Kind) (method : String) (isPair : Bool) (call : Call) :
    Run Value := do
  if call.newTarget.isNone then failType "constructor cannot be invoked without 'new'"
  let made ← call.make origin kind
  fillFrom call made method isPair
  return made

def get (call : Call) : Run Value := do
  let (_, entries) ← subject false call
  return match (place? entries (call.argument 0)).bind (entries[·]?) with
    | some (some (_, value)) => value
    | _ => .undefined

def set (call : Call) : Run Value := do
  let (id, entries) ← subject false call
  setEntries id false (put entries (call.argument 0) (call.argument 1))
  return call.this

def add (call : Call) : Run Value := do
  let (id, entries) ← subject true call
  setEntries id true (put entries (call.argument 0) (plainKey (call.argument 0)))
  return call.this

def has (isSet : Bool) (call : Call) : Run Value := do
  let (_, entries) ← subject isSet call
  return .truth (place? entries (call.argument 0)).isSome

def remove (isSet : Bool) (call : Call) : Run Value := do
  let (id, entries) ← subject isSet call
  match place? entries (call.argument 0) with
  | some i =>
    setEntries id isSet (entries.setIfInBounds i none)
    return .truth true
  | none => return .truth false

def clear (isSet : Bool) (call : Call) : Run Value := do
  let (id, entries) ← subject isSet call
  setEntries id isSet (entries.map fun _ => none)
  return .undefined

def size (isSet : Bool) (call : Call) : Run Value := do
  let (_, entries) ← subject isSet call
  return .ofNat (entries.toList.filter Option.isSome).length

/-- Calls a routine for every entry, also for those that it adds. -/
def forEach (isSet : Bool) (call : Call) : Run Value := do
  let (id, _) ← subject isSet call
  let routine ← call.routine 0
  Execute.repeatWith (fun (i : Nat) => do
    match (← object id).kind with
    | .table _ entries =>
      match entries[i]? with
      | none => return .inr Value.undefined
      | some none => return .inl (i + 1)
      | some (some (key, value)) =>
        let _ ← call.machine.call routine (call.argument 1) [value, key, call.this]
        return .inl (i + 1)
    | _ => return .inr .undefined) turnLimit 0

def walk (isSet : Bool) (listing : Listing) (call : Call) : Run Value := do
  let (id, _) ← subject isSet call
  let base := if isSet then Origin.setWalk else .mapWalk
  return .object (← allocate
    { prototype := some base.id, kind := .walk (.table id 0 listing) })

def groupBy (call : Call) : Run Value := do
  let groups ← Objects.groups call
  let entries ← groups.mapM fun (key, values) => do
    return some (plainKey key, ← makeList values)
  let entries := entries.foldl (fun entries entry =>
    match entry with
    | some (key, value) => put entries key value
    | none => entries) (#[] : Entries)
  return .object (← allocate
    { prototype := some Origin.map.id, kind := .table false entries })

def mapFamily : Family where
  name := "Map"
  maker := some ⟨"Map", 0, maker .map (.table false #[]) "set" true⟩
  base := some .map
  own := [⟨"groupBy", 2, groupBy⟩]
  shared := [⟨"clear", 0, clear false⟩, ⟨"delete", 1, remove false⟩,
    ⟨"entries", 0, walk false .entries⟩, ⟨"forEach", 1, forEach false⟩, ⟨"get", 1, get⟩,
    ⟨"has", 1, has false⟩, ⟨"keys", 0, walk false .keys⟩, ⟨"set", 2, set⟩,
    ⟨"values", 0, walk false .values⟩]
  computed := [⟨"size", 0, size false⟩]
  tag := some "Map"

def setFamily : Family where
  name := "Set"
  maker := some ⟨"Set", 0, maker .set (.table true #[]) "add" false⟩
  base := some .set
  shared := [⟨"add", 1, add⟩, ⟨"clear", 0, clear true⟩, ⟨"delete", 1, remove true⟩,
    ⟨"entries", 0, walk true .entries⟩, ⟨"forEach", 1, forEach true⟩, ⟨"has", 1, has true⟩,
    ⟨"values", 0, walk true .values⟩]
  computed := [⟨"size", 0, size true⟩]
  tag := some "Set"

/-- `this` as a table that keeps only objects, with its entries. -/
def weakSubject (isSet : Bool) (call : Call) : Run (Nat × List (Value × Value)) := do
  match call.this with
  | .object id =>
    match (← object id).kind with
    | .weakTable kind entries => if kind == isSet then return (id, entries) else wrong
    | _ => wrong
  | _ => wrong

def addWeak (isSet : Bool) (call : Call) : Run Value := do
  let (id, entries) ← weakSubject isSet call
  match call.argument 0 with
  | .object _ =>
    let entry := (call.argument 0, call.argument 1)
    update id fun object =>
      { object with kind := .weakTable isSet (entry :: entries.filter (·.1 != entry.1)) }
    return call.this
  | _ => failType "invalid value used as a weak key"

def removeWeak (isSet : Bool) (call : Call) : Run Value := do
  let (id, entries) ← weakSubject isSet call
  update id fun object =>
    { object with kind := .weakTable isSet (entries.filter (·.1 != call.argument 0)) }
  return .truth (entries.any (·.1 == call.argument 0))

def hasWeak (isSet : Bool) (call : Call) : Run Value := do
  let (_, entries) ← weakSubject isSet call
  return .truth (entries.any (·.1 == call.argument 0))

def getWeak (call : Call) : Run Value := do
  let (_, entries) ← weakSubject false call
  return (entries.lookup (call.argument 0)).getD .undefined

def weakMapFamily : Family where
  name := "WeakMap"
  maker := some ⟨"WeakMap", 0, maker .weakMap (.weakTable false []) "set" true⟩
  base := some .weakMap
  shared := [⟨"delete", 1, removeWeak false⟩, ⟨"get", 1, getWeak⟩, ⟨"has", 1, hasWeak false⟩,
    ⟨"set", 2, addWeak false⟩]
  tag := some "WeakMap"

def weakSetFamily : Family where
  name := "WeakSet"
  maker := some ⟨"WeakSet", 0, maker .weakSet (.weakTable true []) "add" false⟩
  base := some .weakSet
  shared := [⟨"add", 1, addWeak true⟩, ⟨"delete", 1, removeWeak true⟩,
    ⟨"has", 1, hasWeak true⟩]
  tag := some "WeakSet"

def makeReference (call : Call) : Run Value := do
  if call.newTarget.isNone then failType "constructor cannot be invoked without 'new'"
  match call.argument 0 with
  | .object _ => call.make .weakRef (.reference (call.argument 0))
  | _ => failType "WeakRef: expected target argument of type object"

def target (call : Call) : Run Value := do
  match call.this with
  | .object id =>
    match (← object id).kind with
    | .reference target => return target
    | _ => wrong
  | _ => wrong

def referenceFamily : Family where
  name := "WeakRef"
  maker := some ⟨"WeakRef", 1, makeReference⟩
  base := some .weakRef
  shared := [⟨"deref", 0, target⟩]
  tag := some "WeakRef"

def families : List Family :=
  [mapFamily, setFamily, weakMapFamily, weakSetFamily, referenceFamily]

end FootprintTemplate.Script.Library.Tables
