import FootprintTemplate.Script.Library.Buffers
import FootprintTemplate.Script.Library.Dates
import FootprintTemplate.Script.Library.Exchange
import FootprintTemplate.Script.Library.Globals
import FootprintTemplate.Script.Library.Labels
import FootprintTemplate.Script.Library.Lists
import FootprintTemplate.Script.Library.Mathematics
import FootprintTemplate.Script.Library.Promises
import FootprintTemplate.Script.Library.Regexes
import FootprintTemplate.Script.Library.Routines
import FootprintTemplate.Script.Library.Tables

/-! The library that scripts find when they start. -/
namespace FootprintTemplate.Script.Library

open Run
open Text (Units units)

def families : List Family :=
  [Objects.family, RoutineObjects.family, Globals.family, Lists.family, Texts.family,
      Numbers.family, Truths.family, Integers.family, Symbols.family, Mathematics.family,
      Exchange.family, Regexes.family, Regexes.walkFamily, Dates.family, Promises.family,
      Promises.settlingFamily, Labels.family, Generators.family, RoutineObjects.generatorFamily,
      RoutineObjects.asyncFamily, Reflection.family, Proxies.family] ++
    Tables.families ++ Walks.families ++ Buffers.families ++ ErrorKind.all.map Failures.family

def find? (home : String) (post : Post) (name : String) : Option Native :=
  match families.find? (·.name == home) with
  | none => none
  | some family =>
    match post with
    | .maker => family.maker
    | .own => family.own.find? (·.name == name)
    | .shared => (family.shared ++ family.computed).find? (·.name == name)

/-- The key of a member of the library. Two signs before a name make it that of a symbol. -/
def keyOf (name : String) : Key :=
  match name.toList with
  | '@' :: '@' :: rest =>
    match Sign.all.lookup (String.ofList rest) with
    | some sign => sign.key
    | none => .ofString name
  | '=' :: rest => .ofString (String.ofList rest)
  | _ => .ofString name

/-- The name of a routine of the library as scripts see it. -/
def shownName (name : String) : String :=
  match name.toList with
  | '@' :: '@' :: rest => "[Symbol." ++ String.ofList rest ++ "]"
  | '=' :: rest => String.ofList rest
  | _ => name

def makeNative (home : String) (post : Post) (native : Native) : Run Nat :=
  allocate {
    prototype := some Origin.routine.id
    kind := .native home post native.name
    slots := #[(Object.lengthKey, Routines.fixedSlot (.ofNat native.arity)),
      (.ofString "name", Routines.fixedSlot (.ofString (shownName native.name)))] }

def addMethods (id : Nat) (home : String) (post : Post) (natives : List Native) : Run Unit := do
  for native in natives do
    let routine ← makeNative home post native
    update id fun object => object.put (keyOf native.name) (.hidden (.object routine))

/-- An object with members of its own that is printed as a text. -/
def makeLabel (members : List (String × Value)) (shown : Units) : Run Value := do
  let routine ← makeNative Labels.family.name .own ⟨"toString", 0, Labels.held⟩
  makeRecord (members.map (fun member => (Key.ofString member.1, Slot.ordinary member.2)) ++
    [(Labels.textKey, .ordinary (.text shown)),
      (.ofString "toString", .hidden (.object routine))])

/-- Members that are computed; a name after an equals sign is the routine that changes it. -/
def addComputed (id : Nat) (home : String) (natives : List Native) : Run Unit := do
  for native in natives do
    let routine := Value.object (← makeNative home .shared native)
    let key := keyOf native.name
    let kind := if native.name.startsWith "=" then AccessorKind.setter else .getter
    update id fun object =>
      object.put key (Classes.withAccessor kind routine false (object.slot? key))

def addConstants (id : Nat) (writable : Bool) (constants : List (String × Value)) : Run Unit := do
  for (name, value) in constants do
    update id fun object =>
      object.put (keyOf name) (.data value writable false writable)

def addTag (id : Nat) (tag : Option String) : Run Unit :=
  match tag with
  | none => return
  | some tag =>
    update id fun object => object.put Sign.toStringTag.key (Routines.fixedSlot (.ofString tag))

/-- The object that makes the objects of a family, or that its routines stand in. -/
def addOwner (family : Family) : Run Nat := do
  match family.owner, family.maker with
  | some owner, _ => return owner.id
  | none, none => allocate { prototype := some Origin.object.id }
  | none, some native =>
    let id ← makeNative family.name .maker native
    match family.base with
    | none => pure ()
    | some base =>
      update id fun object =>
        object.put (.ofString "prototype") (.data (.object base.id) false false false)
      update base.id fun object =>
        object.put (.ofString "constructor") (.hidden (.object id))
    return id

def addFamily (family : Family) : Run Unit := do
  let id ← addOwner family
  addConstants id false family.constants
  addMethods id family.name .own family.own
  match family.base with
  | none => addTag id family.tag
  | some base =>
    addMethods base.id family.name .shared family.shared
    addComputed base.id family.name family.computed
    addConstants base.id true family.sharedConstants
    addTag base.id family.tag
  if family.isGlobal then
    update Origin.global.id fun object =>
      object.put (.ofString family.name) (.hidden (.object id))

/-- The base of an object that is there from the start. -/
def baseOf (origin : Origin) : Option Nat :=
  match origin with
  | .object => none
  | .listWalk | .textWalk | .mapWalk | .setWalk | .regexWalk | .generator => some Origin.walk.id
  | .generatorRoutine | .asyncRoutine => some Origin.routine.id
  | .error kind => some (if kind == .error then Origin.object.id else (Origin.error .error).id)
  | _ => some Origin.object.id

def kindOf (origin : Origin) : Kind :=
  match origin with
  | .list => .list 0 true
  | .text => .wrapped (.text [])
  | .number => .wrapped (.number (.zero false))
  | .truth => .wrapped (.truth false)
  | .routine => .native "" .own ""
  | _ => .plain

def blankStore : Store where
  objects := (Origin.all.map fun origin =>
    ({ prototype := baseOf origin, kind := kindOf origin } : Object)).toArray
  scopes := #[
    { parent := none, owner := some Origin.global.id, hoists := true },
    { parent := some 0 }]
  symbols := (Sign.all.map fun sign => some (units ("Symbol." ++ sign.1))).toArray
  registry := []
  depth := 0
  journal := {}
  joining := []

/-- A method of one base under a further name. -/
def addAlias (origin : Origin) (name : String) (key : Key) : Run Unit :=
  update origin.id fun object =>
    match object.slot? (.ofString name) with
    | some slot => object.put key slot
    | none => object

/-- The object that makes the objects of a base. -/
def makerOf (origin : Origin) : Run Nat := do
  match (← object origin.id).slot? (.ofString "constructor") with
  | some (.data (.object id) _ _ _) => return id
  | _ => return origin.id

/-- Routines that read numbers stand in two places. -/
def addParsers : Run Unit := do
  let global ← object Origin.global.id
  let id ← makerOf .number
  for native in Numbers.parsers do
    let key := Key.ofString native.name
    match global.slot? key with
    | some slot => update id fun object => object.put key slot
    | none => pure ()

def addAll : Run Unit := do
  for family in families do addFamily family
  addParsers
  addAlias .list "values" Sign.iterator.key
  addAlias .map "entries" Sign.iterator.key
  addAlias .set "values" Sign.iterator.key
  addAlias .set "values" (.ofString "keys")
  update Origin.generatorRoutine.id fun object =>
    object.put (.ofString "prototype") (Routines.fixedSlot (.object Origin.generator.id))

/-- The store that a run leaves. -/
def storeAfter (run : Run Unit) (store : Store) : Store :=
  (run.run store).2

/-- The objects and scopes with which a script starts. -/
def startStore : Store :=
  storeAfter addAll blankStore

end FootprintTemplate.Script.Library
