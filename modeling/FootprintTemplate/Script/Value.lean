import FootprintTemplate.Number.Arithmetic
import FootprintTemplate.Number.Shortest
import FootprintTemplate.Regex.Tree
import FootprintTemplate.Script.Tree

/-! Values of a script, and the objects and scopes that they live in. -/
namespace FootprintTemplate.Script

open Number (Double)
open Text (Units units)

inductive Value where
  | undefined
  | null
  | truth (value : Bool)
  | number (value : Double)
  | integer (value : Int)
  | text (value : Units)
  | symbol (id : Nat)
  | object (id : Nat)
deriving DecidableEq, Inhabited

/-- The name of a member. Texts that are the decimal form of a place in a list are places. -/
inductive Key where
  | index (place : Nat)
  | text (text : Units)
  | symbol (id : Nat)
  /-- A name that only the text of a class can use. -/
  | secret (id : Nat)
deriving DecidableEq, Inhabited

/-- The least number that is no place in a list. -/
def indexLimit : Nat := 4294967295

def decimal? (text : Units) : Option Nat :=
  if text.length > 10 || !text.all (fun u => 48 ≤ u && u ≤ 57) then none
  else match text with
    | [] => none
    | [48] => some 0
    | 48 :: _ => none
    | text => some (text.foldl (fun n u => 10 * n + (u.toNat - 48)) 0)

namespace Key

def ofUnits (text : Units) : Key :=
  match decimal? text with
  | some n => if n < indexLimit then .index n else .text text
  | none => .text text

def ofString (text : String) : Key :=
  ofUnits (units text)

def ofNat (n : Nat) : Key :=
  if n < indexLimit then .index n else .text (units (toString n))

/-- The text of a key that is one. -/
def units? : Key → Option Units
  | .index n => some (units (toString n))
  | .text own => some own
  | _ => none

def value : Key → Value
  | .index n => .text (units (toString n))
  | .text own => .text own
  | .symbol id | .secret id => .symbol id

def isText : Key → Bool
  | .index _ | .text _ => true
  | _ => false

end Key

/-- A member of an object: a value, or routines that get and set one. -/
inductive Slot where
  | data (value : Value) (writable enumerable configurable : Bool)
  | accessor (getter setter : Value) (enumerable configurable : Bool)
deriving DecidableEq, Inhabited

namespace Slot

/-- A member that can be read, changed, listed and removed. -/
def ordinary (value : Value) : Slot :=
  .data value true true true

/-- A member that is not listed. -/
def hidden (value : Value) : Slot :=
  .data value true false true

def isEnumerable : Slot → Bool
  | .data _ _ enumerable _ | .accessor _ _ enumerable _ => enumerable

def isConfigurable : Slot → Bool
  | .data _ _ _ configurable | .accessor _ _ _ configurable => configurable

end Slot

/-- What an object gets when it is made: a member with its value, or a slot. -/
inductive OwnMember where
  | field (key : Key) (value : Value)
  | slot (key : Key) (slot : Slot)

/-- A routine of the script and what it knows. -/
structure Closure where
  routine : Routine
  scope : Nat
  /-- The object in whose base `super` looks for members. -/
  home : Option Nat := none
  isClass : Bool := false
  members : List OwnMember := []

inductive Listing where
  | keys
  | values
  | entries
deriving DecidableEq

/-- How far a walk through values has come. -/
inductive Walk where
  | list (owner : Value) (next : Nat) (listing : Listing)
  | text (rest : Units)
  | table (owner next : Nat) (listing : Listing)
  /-- The matches of an expression in a text. -/
  | search (regex : Value) (text : Units) (all : Bool)
  | over

inductive Completion where
  | normal (value : Option Value)
  | leave (label : Option String) (value : Option Value)
  | next (label : Option String) (value : Option Value)
  | giveBack (value : Value)

instance : Inhabited Completion := ⟨.normal none⟩

/-- Why running comes to a stop. -/
inductive Stop where
  | thrown (value : Value)
  /-- A part of a chain is missing. -/
  | missing
  /-- A generator hands out a value and waits to be asked for the next one. -/
  | yielded (value : Value)
  /-- A generator was told to give back a value. -/
  | given (value : Value)
  /-- An asynchronous routine waits, and nothing ever goes on with it. -/
  | waiting
  | exhausted

/-- What a step of a generator gave. -/
inductive Mark where
  | value (value : Value)
  | completion (completion : Completion)
  | place (id : Nat)
  | walker (source next : Value)
  | item (value : Option Value)
  | keys (keys : List (Nat × Key))

/-- The steps of a generator, in the order in which they began; one that is not at its end gave
nothing yet. A generator goes on by taking its steps once more. Those at their end have no effect
then, and give what they gave before. -/
structure Journal where
  steps : Array (Option (Except Stop Mark)) := #[]
  /-- The step that comes next. -/
  next : Nat := 0

/-- A generator that has not ended: its routine, the scope of the call, and its steps. -/
inductive Generation where
  | waiting (routine : Routine) (scope : Nat) (journal : Journal)
  | running
  | ended

/-- What a routine of the library belongs to: it makes objects, or stands in the object that does,
or in the base of those that are made. -/
inductive Post where
  | maker
  | own
  | shared
deriving DecidableEq

inductive Kind where
  | plain
  | list (length : Nat) (writable : Bool)
  | closure (closure : Closure)
  /-- A routine of the library, by its home and its name there. -/
  | native (home : String) (post : Post) (name : String)
  | bound (target : Nat) (this : Value) (arguments : List Value)
  | wrapped (value : Value)
  | failure
  | arguments
  | regex (regex : Regex) (source flags : Units)
  | date (time : Double)
  | table (isSet : Bool) (entries : Array (Option (Value × Value)))
  | weakTable (isSet : Bool) (entries : List (Value × Value))
  | reference (target : Value)
  | promise
  | proxy (target handler : Option Nat) (callable makes : Bool)
  | walk (walk : Walk)
  | generator (state : Generation)

instance : Inhabited Kind := ⟨.plain⟩

structure Object where
  prototype : Option Nat
  extensible : Bool := true
  kind : Kind := .plain
  /-- The members whose names are places. Those of a list are in order up to its first hole. -/
  items : Array (Nat × Slot) := #[]
  /-- All other members, in the order in which they came. -/
  slots : Array (Key × Slot) := #[]
deriving Inhabited

namespace Object

/-- Where an item stands among the items. -/
def itemPlace? (object : Object) (i : Nat) : Option Nat :=
  if (object.items[i]?).any (·.1 == i) then some i
  else match object.kind with
    | .list length _ => if i < length then object.items.findIdx? (·.1 == i) else none
    | _ => object.items.findIdx? (·.1 == i)

def slotPlace? (object : Object) (key : Key) : Option Nat :=
  object.slots.findIdx? (·.1 == key)

def slot? (object : Object) (key : Key) : Option Slot :=
  match key with
  | .index i => (object.itemPlace? i).bind fun place => (object.items[place]?).map (·.2)
  | key => (object.slotPlace? key).bind fun place => (object.slots[place]?).map (·.2)

def put (object : Object) (key : Key) (slot : Slot) : Object :=
  match key with
  | .index i =>
    match object.itemPlace? i with
    | some place => { object with items := object.items.setIfInBounds place (i, slot) }
    | none => { object with items := object.items.push (i, slot) }
  | key =>
    match object.slotPlace? key with
    | some place => { object with slots := object.slots.setIfInBounds place (key, slot) }
    | none => { object with slots := object.slots.push (key, slot) }

def putAll (object : Object) (members : List (Key × Slot)) : Object :=
  members.foldl (fun object (key, slot) => object.put key slot) object

def remove (object : Object) (key : Key) : Object :=
  match key with
  | .index i =>
    match object.itemPlace? i with
    | some place => { object with items := object.items.eraseIdxIfInBounds place }
    | none => object
  | key =>
    match object.slotPlace? key with
    | some place => { object with slots := object.slots.eraseIdxIfInBounds place }
    | none => object

/-- Values as the items of an object. -/
def itemsOf (values : List Value) : Array (Nat × Slot) :=
  values.toArray.mapIdx fun i value => (i, Slot.ordinary value)

end Object

inductive Change where
  | free
  /-- Giving another value fails. -/
  | refused
  /-- Giving another value fails only in strict text. -/
  | ignored
deriving DecidableEq

/-- A name in a scope; it has no value before its declaration is reached. -/
structure Binding where
  value : Option Value
  change : Change := .free

/-- What a running routine knows about its call. -/
structure Frame where
  /-- None before the base of a class has made it. -/
  this : Option Value
  callee : Option Nat
  newTarget : Option Nat
  home : Option Nat

structure Scope where
  parent : Option Nat
  bindings : List (String × Binding) := []
  /-- An object whose members are names of the scope. -/
  owner : Option Nat := none
  frame : Option Frame := none
  /-- Names hoisted by further text are declared here. -/
  hoists : Bool := false
  strict : Bool := false

instance : Inhabited Scope := ⟨{ parent := none }⟩

structure Store where
  objects : Array Object
  scopes : Array Scope
  /-- The descriptions of symbols. -/
  symbols : Array (Option Units)
  /-- Symbols that are known by their text. -/
  registry : List (Units × Nat)
  /-- Calls that are running. -/
  depth : Nat
  /-- The steps of the generator that is running. -/
  journal : Journal
  /-- Lists whose text is being made. -/
  joining : List Nat

abbrev Run := ExceptT Stop (StateM Store)

inductive ErrorKind where
  | error
  | type
  | range
  | reference
  | grammar
  | address
  | evaluation
  | aggregate
deriving DecidableEq

namespace ErrorKind

def all : List ErrorKind :=
  [error, type, range, reference, grammar, address, evaluation, aggregate]

def name : ErrorKind → String
  | error => "Error"
  | type => "TypeError"
  | range => "RangeError"
  | reference => "ReferenceError"
  | grammar => "SyntaxError"
  | address => "URIError"
  | evaluation => "EvalError"
  | aggregate => "AggregateError"

end ErrorKind

/-- Objects that are there from the start: the bases of the kinds of values, and the globals. -/
inductive Origin where
  | object
  | routine
  | list
  | text
  | number
  | truth
  | symbol
  | integer
  | regex
  | date
  | map
  | set
  | weakMap
  | weakSet
  | weakRef
  | promise
  | walk
  | listWalk
  | textWalk
  | mapWalk
  | setWalk
  | regexWalk
  | generator
  | generatorRoutine
  | asyncRoutine
  | error (kind : ErrorKind)
  | global
deriving DecidableEq

namespace Origin

def all : List Origin :=
  [object, routine, list, text, number, truth, symbol, integer, regex, date, map, set, weakMap,
    weakSet, weakRef, promise, walk, listWalk, textWalk, mapWalk, setWalk, regexWalk, generator,
    generatorRoutine, asyncRoutine] ++ ErrorKind.all.map error ++ [global]

def errorId : ErrorKind → Nat
  | .error => 25
  | .type => 26
  | .range => 27
  | .reference => 28
  | .grammar => 29
  | .address => 30
  | .evaluation => 31
  | .aggregate => 32

/-- The number of the object, its place in the list of all. -/
def id : Origin → Nat
  | object => 0
  | routine => 1
  | list => 2
  | text => 3
  | number => 4
  | truth => 5
  | symbol => 6
  | integer => 7
  | regex => 8
  | date => 9
  | map => 10
  | set => 11
  | weakMap => 12
  | weakSet => 13
  | weakRef => 14
  | promise => 15
  | walk => 16
  | listWalk => 17
  | textWalk => 18
  | mapWalk => 19
  | setWalk => 20
  | regexWalk => 21
  | generator => 22
  | generatorRoutine => 23
  | asyncRoutine => 24
  | error kind => errorId kind
  | global => 33

end Origin

/-- Symbols that the language itself looks for. -/
inductive Sign where
  | iterator
  | asyncIterator
  | hasInstance
  | toPrimitive
  | toStringTag
  | species
  | isConcatSpreadable
  | unscopables
  | matching
  | matchAll
  | replace
  | search
  | split
deriving DecidableEq

namespace Sign

def all : List (String × Sign) :=
  [("iterator", iterator), ("asyncIterator", asyncIterator), ("hasInstance", hasInstance),
    ("toPrimitive", toPrimitive), ("toStringTag", toStringTag), ("species", species),
    ("isConcatSpreadable", isConcatSpreadable), ("unscopables", unscopables), ("match", matching),
    ("matchAll", matchAll), ("replace", replace), ("search", search), ("split", split)]

def id (sign : Sign) : Nat :=
  (all.map Prod.snd).idxOf sign

def key (sign : Sign) : Key :=
  .symbol sign.id

end Sign

namespace Run

def object (id : Nat) : Run Object :=
  return ((← get).objects[id]?).getD default

def update (id : Nat) (change : Object → Object) : Run Unit :=
  modify fun store => { store with objects := store.objects.modify id change }

/-- Changes an object, which also gives a result. -/
def exchange {α : Type} (id : Nat) (change : Object → Object × α) : Run α := fun store =>
  let object := (store.objects[id]?).getD default
  let store := { store with objects := store.objects.setIfInBounds id default }
  let (object, result) := change object
  (.ok result, { store with objects := store.objects.setIfInBounds id object })

def allocate (object : Object) : Run Nat := do
  let id := (← get).objects.size
  modify fun store => { store with objects := store.objects.push object }
  return id

def scope (id : Nat) : Run Scope :=
  return ((← get).scopes[id]?).getD default

def updateScope (id : Nat) (change : Scope → Scope) : Run Unit :=
  modify fun store => { store with scopes := store.scopes.modify id change }

def openScope (scope : Scope) : Run Nat := do
  let id := (← get).scopes.size
  modify fun store => { store with scopes := store.scopes.push scope }
  return id

def makeRecord (slots : List (Key × Slot)) : Run Value := do
  let object : Object := { prototype := some Origin.object.id }
  return .object (← allocate (object.putAll slots))

def makeList (items : List Value) : Run Value := do
  return .object (← allocate
    { prototype := some Origin.list.id
      kind := .list items.length true
      items := Object.itemsOf items })

def fail {α : Type} (kind : ErrorKind) (message : String) : Run α := do
  let id ← allocate {
    prototype := some (Origin.error kind).id
    kind := .failure
    slots := #[(.ofString "message", .hidden (.text (units message)))] }
  throw (.thrown (.object id))

/-- The first result that a step gives for some numbers in a row. -/
def first? {α : Type} (step : Nat → Run (Option α)) : Nat → Nat → Run (Option α)
  | 0, _ => fun store => (.ok none, store)
  | count + 1, i => fun store =>
    match step i store with
    | (.ok none, store) => first? step count (i + 1) store
    | found => found

/-- Carries out a step for some numbers in a row. -/
def forRange (step : Nat → Run Unit) : Nat → Nat → Run Unit
  | 0, _ => fun store => (.ok (), store)
  | count + 1, i => fun store =>
    match step i store with
    | (.ok (), store) => forRange step count (i + 1) store
    | failed => failed

def failType {α : Type} (message : String) : Run α :=
  fail .type message

/-- Repeats a step until it gives a result. -/
def loop {α : Type} (step : Run (Option α)) : Nat → Run α
  | 0 => fun store => (.error .exhausted, store)
  | fuel + 1 => fun store =>
    match step store with
    | (.ok none, store) => loop step fuel store
    | (.ok (some result), store) => (.ok result, store)
    | (.error stop, store) => (.error stop, store)

/-- More turns than any loop takes that ends. -/
def turnLimit : Nat := 100000000

def repeated {α : Type} (step : Run (Option α)) : Run α :=
  loop step turnLimit

end Run

def Run.outcome {α : Type} (run : Run α) : Run (Except Stop α) := fun store =>
  let (result, store) := run.run store
  (.ok result, store)

/-- How the parts of running are carried out, one level further down. -/
structure Machine where
  evaluate : Nat → Tree → Run Value
  execute : Nat → Tree → Run Completion
  call : Value → Value → List Value → Run Value
  construct : Nat → List Value → Nat → Run Value
  /-- The body of a generator in its scope. -/
  generate : Nat → Routine → Run Value
  /-- The steps are those of a generator. -/
  journals : Bool

end FootprintTemplate.Script
