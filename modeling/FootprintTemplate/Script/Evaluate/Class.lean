import FootprintTemplate.Script.Evaluate.Routine

/-! Classes, and the members of records that are made like theirs. -/
namespace FootprintTemplate.Script

open Run
open Text (Units units)

namespace Classes

def nameOfKey (key : Key) : Run Units := do
  match key with
  | .symbol id =>
    match ((← get).symbols[id]?).join with
    | some description => return units "[" ++ description ++ units "]"
    | none => return []
  | .secret id => return ((← get).symbols[id]?).join.getD []
  | key => return key.units?.getD []

def accessorName (kind : AccessorKind) (name : Units) : Units :=
  units (match kind with
    | .getter => "get "
    | .setter => "set ") ++ name

/-- The slot with an accessor put beside the one that is there. -/
def withAccessor (kind : AccessorKind) (routine : Value) (enumerable : Bool) (slot : Option Slot) :
    Slot :=
  let (getter, setter) := match slot with
    | some (.accessor getter setter _ _) => (getter, setter)
    | _ => (Value.undefined, Value.undefined)
  match kind with
  | .getter => .accessor routine setter enumerable true
  | .setter => .accessor getter routine enumerable true

def defineMethod (m : Machine) (scope home target : Nat) (enumerable : Bool) (member : Tree) :
    Run Unit := do
  match member with
  | .method key routine =>
    let key ← Target.keyOf m scope key
    let value ← Routines.makeOf scope (some home) (← nameOfKey key) routine
    match key with
    | .secret _ => update target fun object => object.put key (.data value false false false)
    | key => Member.defineOrFail m target key (.ofSlot (.data value true enumerable true))
  | .accessor kind key routine =>
    let key ← Target.keyOf m scope key
    let name := accessorName kind (← nameOfKey key)
    let value ← Routines.makeOf scope (some home) name routine
    let slot := withAccessor kind value enumerable ((← object target).slot? key)
    match key with
    | .secret _ => update target fun object => object.put key slot
    | key => Member.defineOrFail m target key (.ofSlot slot)
  | _ => return

def withoutStatic : Tree → Tree
  | .static member => member
  | member => member

def secretNames (members : List Tree) : List String :=
  members.filterMap fun member =>
    match withoutStatic member with
    | .method (.secretKey own) _ | .accessor _ (.secretKey own) _ | .ownField (.secretKey own) _ =>
      some own
    | _ => none

def makeSymbol (description : Option Units) : Run Nat := do
  let id := (← get).symbols.size
  modify fun store => { store with symbols := store.symbols.push description }
  return id

def declareSecrets (scope : Nat) (names : List String) : Run Unit := do
  for name in names do
    if !(← Names.isDeclared scope ("#" ++ name)) then
      let id ← makeSymbol (some (units ("#" ++ name)))
      Names.declare scope ("#" ++ name) { value := some (.symbol id), change := .refused }

/-- The base of the objects of a class, and that of the class itself. -/
def bases (m : Machine) (scope : Nat) (parent : Tree) : Run (Option Nat × Nat) := do
  match parent with
  | .absent => return (some Origin.object.id, Origin.routine.id)
  | parent =>
    match ← m.evaluate scope parent with
    | .null => return (none, Origin.routine.id)
    | value =>
      match value, ← Coerce.isConstructor value with
      | .object id, true =>
        match ← Member.get m id (.ofString "prototype") with
        | .object base => return (some base, id)
        | .null => return (none, id)
        | _ => failType "superclass prototype must be an object or null"
      | _, _ => failType "superclass must be a constructor"

def defaultInfo (form : RoutineForm) : RoutineInfo :=
  ⟨form, false, false, true, none, false, [], true⟩

/-- The routine that makes objects where a class has none of its own. -/
def defaultMaker (parent : Tree) : Routine :=
  match parent with
  | .absent => ⟨defaultInfo .maker, [], .absent, []⟩
  | _ =>
    ⟨{ defaultInfo .derivedMaker with isSimple := false }, [], .name "args",
      [.expression (.superCall [.spread (.name "args")])]⟩

/-- A member that every object of a class gets, or that the class itself gets once it is made. -/
inductive Late where
  | field (member : OwnMember)
  | block (routine : Value)

/-- The secret methods and the fields among members; the other methods are defined. -/
def readMember (m : Machine) (scope home : Nat) (member : Tree) : Run (Option Late) := do
  match member with
  | .ownField key value =>
    let key ← Target.keyOf m scope key
    let name ← nameOfKey key
    let value := match value with
      | .routine info parameters rest [.giveBack inner] =>
        .routine info parameters rest [.giveBack (inner.named (Text.ofUnits name))]
      | value => value
    return some (.field (.field key (← Routines.makeOf scope (some home) name value)))
  | .ownBlock routine => return some (.block (← Routines.makeOf scope (some home) [] routine))
  | .method key routine =>
    match ← Target.keyOf m scope key with
    | .secret id =>
      let value ← Routines.makeOf scope (some home) (← nameOfKey (.secret id)) routine
      return some (.field (.slot (.secret id) (.data value false false false)))
    | key =>
      let value ← Routines.makeOf scope (some home) (← nameOfKey key) routine
      Member.defineOrFail m home key (.ofSlot (.hidden value))
      return none
  | .accessor kind key routine =>
    match key, ← Target.keyOf m scope key with
    | _, .secret id =>
      let name := accessorName kind (← nameOfKey (.secret id))
      let value ← Routines.makeOf scope (some home) name routine
      return some (.field (.slot (.secret id) (withAccessor kind value false none)))
    | _, key =>
      let name := accessorName kind (← nameOfKey key)
      let value ← Routines.makeOf scope (some home) name routine
      let slot := withAccessor kind value false ((← object home).slot? key)
      Member.defineOrFail m home key (.ofSlot slot)
      return none
  | _ => return none

/-- The one of two that is there. -/
def pick (a b : Value) : Value :=
  if a == .undefined then b else a

/-- Two accessors of one member in one slot. -/
def joined : Slot → Slot → Slot
  | .accessor getter setter enumerable configurable, .accessor otherGetter otherSetter _ _ =>
    .accessor (pick otherGetter getter) (pick otherSetter setter) enumerable configurable
  | _, slot => slot

def hasKey (key : Key) : OwnMember → Bool
  | .slot own _ | .field own _ => own == key

/-- Adds a secret slot, joined with one of its name. -/
def addSlot (members : List OwnMember) (member : OwnMember) : List OwnMember :=
  match member with
  | .slot key slot =>
    if members.any (hasKey key) then
      members.map fun
        | .slot own before =>
          if own == key then .slot own (joined before slot) else .slot own before
        | other => other
    else members ++ [member]
  | other => members ++ [other]

def joinSlots (members : List OwnMember) : List OwnMember :=
  members.foldl addSlot []

def isSlot : OwnMember → Bool
  | .slot _ _ => true
  | _ => false

/-- Slots come before fields. -/
def ordered (members : List OwnMember) : List OwnMember :=
  joinSlots (members.filter isSlot) ++ members.filter (!isSlot ·)

def fieldOf? : Late → Option OwnMember
  | .field member => some member
  | .block _ => none

def slotOf? : Late → Option OwnMember
  | .field member => if isSlot member then some member else none
  | .block _ => none

/-- What a class gets once it is made, in the order of its text. -/
def addLate (m : Machine) (made : Value) (late : List Late) : Run Unit := do
  Routines.addMembers m made (joinSlots (late.filterMap slotOf?))
  for item in late do
    match item with
    | .block routine =>
      let _ ← m.call routine made []
    | .field member => if !isSlot member then Routines.addMembers m made [member]

def make (m : Machine) (outer : Nat) (name : Option String) (knowsName : Bool)
    (parent maker : Tree) (members : List Tree) : Run Value := do
  let scope ← openScope { parent := some outer, strict := true }
  if knowsName then
    match name with
    | some own => Names.declare scope own { value := none, change := .refused }
    | none => pure ()
  declareSecrets scope (secretNames members)
  let (base, origin) ← bases m scope parent
  let home ← allocate { prototype := base }
  let routine := (Routines.ofTree? maker).getD (defaultMaker parent)
  let id ← Routines.allocateRoutine { routine, scope, home := some home, isClass := true }
    (units (name.getD "")) (some origin)
  update id fun object =>
    object.put (.ofString "prototype") (.data (.object home) false false false)
  update home fun object => object.put (.ofString "constructor") (.hidden (.object id))
  let mut shared : List Late := []
  let mut late : List Late := []
  for member in members do
    match member with
    | .static member =>
      match ← readMember m scope id member with
      | some item => late := late ++ [item]
      | none => pure ()
    | member =>
      match ← readMember m scope home member with
      | some item => shared := shared ++ [item]
      | none => pure ()
  if knowsName then
    match name with
    | some own => Names.settle scope own (.object id)
    | none => pure ()
  let fields := ordered (shared.filterMap fieldOf?)
  let closure : Closure := { routine, scope, home := some home, isClass := true, members := fields }
  update id fun object => { object with kind := .closure closure }
  addLate m (.object id) late
  return .object id

end Classes

end FootprintTemplate.Script
