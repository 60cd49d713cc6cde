import FootprintTemplate.Script.Evaluate.Names
import FootprintTemplate.Script.Iterate

/-! Putting values where they belong: into names, members, and the parts of records and lists. -/
namespace FootprintTemplate.Script

open Run
open Text (Units units)

namespace Target

/-- Gives a member of any value another value. Outside strict text a refusal goes unnoticed. -/
def setMember (m : Machine) (strict : Bool) (owner : Value) (key : Key) (value : Value) :
    Run Unit := do
  match Coerce.originOf? owner with
  | none => failType "cannot convert 'null' or 'undefined' to object"
  | some id =>
    if !(← Member.setWithin m Member.reach id key value owner) && strict then
      Member.failSet key

/-- The slot of a secret member, which has to be there. -/
def secretSlot (owner : Value) (key : Key) : Run (Nat × Slot) := do
  match owner with
  | .object id =>
    match (← object id).slot? key with
    | some slot => return (id, slot)
    | none => failType "object does not have the private name"
  | _ => failType "cannot read private name of a value that is no object"

def getSecret (m : Machine) (owner : Value) (key : Key) : Run Value := do
  match (← secretSlot owner key).2 with
  | .data value _ _ _ => return value
  | .accessor .undefined _ _ _ => failType "private property was defined without a getter"
  | .accessor getter _ _ _ => m.call getter owner []

def setSecret (m : Machine) (owner : Value) (key : Key) (value : Value) : Run Unit := do
  match ← secretSlot owner key with
  | (id, .data _ true enumerable configurable) =>
    update id fun object => object.put key (.data value true enumerable configurable)
  | (_, .data _ false _ _) => failType "private method is not writable"
  | (_, .accessor _ .undefined _ _) => failType "private property was defined without a setter"
  | (_, .accessor _ setter _ _) =>
    let _ ← m.call setter owner [value]

/-- A place that has been computed, so that it can be read and then written. -/
inductive Spot where
  | name (name : String) (place : Place)
  | member (owner key : Value)
  | secret (owner : Value) (key : Key)
  /-- A member looked for in one object on behalf of another. -/
  | super (base this key : Value)

/-- The base in which `super` looks for members. -/
def superBase (m : Machine) (scope : Nat) : Run Value := do
  match ← Names.frameOf scope with
  | some (_, frame) =>
    match frame.home with
    | some home => return .ofId? (← Member.prototype m home)
    | none => return .undefined
  | none => return .undefined

def spot (m : Machine) (scope : Nat) (tree : Tree) : Run Spot := do
  match tree.bare with
  | .name own => return .name own (← Names.resolve m scope own)
  | .member owner key =>
    let owner ← m.evaluate scope owner
    return .member owner (← m.evaluate scope key)
  | .secretMember owner own =>
    let owner ← m.evaluate scope owner
    return .secret owner (← Names.secretKey m scope own)
  | .superMember key =>
    let this ← Names.this scope
    let key ← m.evaluate scope key
    return .super (← superBase m scope) this key
  | _ => fail .reference "invalid assignment target"

namespace Spot

/-- The key of a member; the owner has to be there before the key becomes one. -/
def keyOf (m : Machine) (owner key : Value) : Run Key := do
  if owner.isNothing then failType "cannot convert 'null' or 'undefined' to object"
  Coerce.toKey m key

def read (m : Machine) : Spot → Run Value
  | .name own place => Names.read m place own
  | .member owner key => do Coerce.memberOf m owner (← keyOf m owner key)
  | .secret owner key => getSecret m owner key
  | .super base this key => do
    match base with
    | .object id => Member.getWithin m Member.reach id (← Coerce.toKey m key) this
    | _ => failType "cannot convert 'null' or 'undefined' to object"

def write (m : Machine) (strict : Bool) (value : Value) : Spot → Run Unit
  | .name own place => Names.write m strict place own value
  | .member owner key => do setMember m strict owner (← keyOf m owner key) value
  | .secret owner key => setSecret m owner key value
  | .super base this key => do
    match base with
    | .object id =>
      let key ← Coerce.toKey m key
      if !(← Member.setWithin m Member.reach id key value this) && strict then
        Member.failSet key
    | _ => failType "cannot convert 'null' or 'undefined' to object"

/-- The value of the spot is put back with its key computed once. -/
def fixed (m : Machine) (spot : Spot) : Run Spot := do
  match spot with
  | .member owner key => return .member owner (← keyOf m owner key).value
  | spot => return spot

end Spot

def isStrict (scope : Nat) : Run Bool :=
  return (← Run.scope scope).strict

/-- A value, or that of a default in its place. A routine without a name is named. -/
def orDefault (m : Machine) (scope : Nat) (target default : Tree) (value : Value) : Run Value := do
  match value, default with
  | .undefined, .absent => return value
  | .undefined, default =>
    match target with
    | .name own => m.evaluate scope (default.named own)
    | _ => m.evaluate scope default
  | value, _ => return value

/-- The key that a tree of one stands for. -/
def keyOf (m : Machine) (scope : Nat) (key : Tree) : Run Key := do
  match key with
  | .fixedKey text => return .ofUnits text
  | .computedKey key => Coerce.toKey m (← m.evaluate scope key)
  | .secretKey own => Names.secretKey m scope own
  | _ => return default

/-- The listed members of an object, without some of them, put into another one. -/
def copyMembers (m : Machine) (source : Value) (without : List Key) (target : Nat) : Run Unit := do
  match Coerce.originOf? source with
  | none => return
  | some _ =>
    let id ← Coerce.toObject source
    for key in ← Member.keys m id do
      if !without.contains key then
        if ((← Member.own? m id key).map Slot.isEnumerable).getD false then
          Member.create m target key (← Member.get m id key)

/-- The values that a walk still hands out. -/
def remaining (m : Machine) (walker : Walker) : Run (List Value) := do
  let rec go : Nat → List Value → Run (List Value)
    | 0, _ => throw .exhausted
    | fuel + 1, before => do
      match ← walker.next? m with
      | none => return before.reverse
      | some value => go fuel (value :: before)
  go 10000000 []

mutual
/-- Puts a value into a target, which settles the names that it declares. -/
def put (m : Machine) (scope : Nat) (settles : Bool) (value : Value) : Tree → Run Unit
  | .recordTarget fields rest => do
    if value.isNothing then
      let shown := if value == .null then "null" else "undefined"
      failType ("Cannot destructure '" ++ shown ++ "' value")
    let keys ← putFields m scope settles value fields
    match rest with
    | .absent => return
    | rest =>
      let copy ← allocate { prototype := some Origin.object.id }
      copyMembers m value keys copy
      put m scope settles (.object copy) rest
  | .listTarget elements rest => do
    let walker ← Walker.start m value
    let done ← putElements m scope settles walker false elements
    match rest with
    | .absent => if !done then walker.close m
    | rest =>
      let values ← if done then pure [] else remaining m walker
      put m scope settles (← makeList values) rest
  | .name own => do
    if settles then Names.settle scope own value
    else Names.write m (← isStrict scope) (← Names.resolve m scope own) own value
  | tree => do
    let spot ← spot m scope tree
    spot.write m (← isStrict scope) value

def putFields (m : Machine) (scope : Nat) (settles : Bool) (value : Value) :
    List Tree → Run (List Key)
  | .field key (.element target default) :: rest => do
    let key ← keyOf m scope key
    let part ← orDefault m scope target default (← Coerce.memberOf m value key)
    put m scope settles part target
    return key :: (← putFields m scope settles value rest)
  | _ => return []

/-- Puts the values of a walk into the elements of a list; says whether the walk is over. -/
def putElements (m : Machine) (scope : Nat) (settles : Bool) (walker : Walker) (done : Bool) :
    List Tree → Run Bool
  | [] => return done
  | first :: rest => do
    let next ← if done then pure none else walker.next? m
    match first with
    | .element target default =>
      try
        let part ← orDefault m scope target default (next.getD .undefined)
        put m scope settles part target
      catch stop =>
        if next.isNone then throw stop else walker.abandon m stop
    | _ => pure ()
    putElements m scope settles walker next.isNone rest
end

end Target

end FootprintTemplate.Script
