import FootprintTemplate.Script.Library.Native

/-! Walks through lists, texts and tables, and generators. -/
namespace FootprintTemplate.Script.Library

open Run
open Text (Units units)

namespace Walks

def wrong {α : Type} : Run α :=
  failType "'this' is not the walk of such an object"

def setWalk (id : Nat) (walk : Walk) : Run Unit :=
  update id fun object => { object with kind := .walk walk }

/-- What a walk hands out for a place with a value. -/
def listed (listing : Listing) (key value : Value) : Run Value :=
  match listing with
  | .keys => return key
  | .values => return value
  | .entries => makeList [key, value]

def nextOfList (call : Call) (id : Nat) (owner : Value) (i : Nat) (listing : Listing) :
    Run Value := do
  let length ← match owner with
    | .object list => Coerce.lengthOf call.machine list
    | _ => pure 0
  if i < length then
    setWalk id (.list owner (i + 1) listing)
    let value ← if listing == .keys then pure .undefined
      else Coerce.memberOf call.machine owner (.ofNat i)
    Iterate.result (← listed listing (.ofNat i) value) false
  else
    setWalk id .over
    Iterate.result .undefined true

/-- The units of the first character of a text, and the rest. -/
def firstPoint : Units → Units × Units
  | [] => ([], [])
  | high :: low :: rest =>
    if Text.isHighSurrogate high && Text.isLowSurrogate low then ([high, low], rest)
    else ([high], low :: rest)
  | [unit] => ([unit], [])

def nextOfText (id : Nat) (rest : Units) : Run Value := do
  match firstPoint rest with
  | ([], _) =>
    setWalk id .over
    Iterate.result .undefined true
  | (point, rest) =>
    setWalk id (.text rest)
    Iterate.result (.text point) false

/-- The first entry at or after a place. Entries that are removed leave a gap. -/
def entryFrom (entries : Array (Option (Value × Value))) : Nat → Nat →
    Option (Nat × Value × Value)
  | 0, _ => none
  | count + 1, i =>
    match entries[i]? with
    | some (some entry) => some (i, entry)
    | _ => entryFrom entries count (i + 1)

def nextOfTable (id owner i : Nat) (listing : Listing) : Run Value := do
  let entries := match (← object owner).kind with
    | .table _ entries => entries
    | _ => #[]
  match entryFrom entries (entries.size - i) i with
  | some (place, key, value) =>
    setWalk id (.table owner (place + 1) listing)
    Iterate.result (← listed listing key value) false
  | none =>
    setWalk id .over
    Iterate.result .undefined true

def next (call : Call) : Run Value := do
  match call.this with
  | .object id =>
    match (← object id).kind with
    | .walk (.list owner i listing) => nextOfList call id owner i listing
    | .walk (.text rest) => nextOfText id rest
    | .walk (.table owner i listing) => nextOfTable id owner i listing
    | .walk .over => Iterate.result .undefined true
    | _ => wrong
  | _ => wrong

/-- A family of walks of one kind. -/
def family (name : String) (base : Origin) : Family where
  name
  base := some base
  isGlobal := false
  shared := [⟨"next", 0, next⟩]
  tag := some name

def baseFamily : Family where
  name := "Iterator"
  base := some .walk
  isGlobal := false
  shared := [⟨"@@iterator", 0, fun call => return call.this⟩]

def families : List Family :=
  [baseFamily, family "Array Iterator" .listWalk, family "String Iterator" .textWalk,
    family "Map Iterator" .mapWalk, family "Set Iterator" .setWalk]

end Walks

namespace Generators

def setState (id : Nat) (state : Generation) : Run Unit :=
  update id fun object => { object with kind := .generator state }

/-- `this` as a generator. -/
def subject (call : Call) : Run (Nat × Generation) := do
  match call.this with
  | .object id =>
    match (← object id).kind with
    | .generator state => return (id, state)
    | _ => failType "generator resumed on non generator object"
  | _ => failType "generator resumed on non generator object"

/-- Takes the steps of a generator up to the next value; what it gives, and its steps then. -/
def steps (m : Machine) (routine : Routine) (scope : Nat) (journal : Journal) :
    Run (Except Stop Value × Journal) := do
  let before := (← MonadState.get).journal
  modify fun store => { store with journal := { journal with next := 0 } }
  let result ← outcome (Routines.deeper (m.generate scope routine))
  let journal := (← MonadState.get).journal
  modify fun store => { store with journal := before }
  return (result, journal)

/-- Goes on with a generator that is given an answer to the value it handed out. -/
def goOn (m : Machine) (id : Nat) (routine : Routine) (scope : Nat) (journal : Journal)
    (answer : Except Stop Value) : Run Value := do
  let isStart := journal.steps.isEmpty
  let journal : Journal :=
    if isStart then journal
    else { journal with steps := journal.steps.push (some (answer.map .value)) }
  setState id .running
  let (result, journal) ← steps m routine scope journal
  match result with
  | .error (.yielded value) =>
    setState id (.waiting routine scope journal)
    Iterate.result value false
  | .ok value | .error (.given value) =>
    setState id .ended
    Iterate.result value true
  | .error .waiting =>
    setState id .ended
    Iterate.result .undefined true
  | .error stop =>
    setState id .ended
    throw stop

/-- Answers a generator. One that has not started ends at once, unless it is asked for a value. -/
def resume (call : Call) (answer : Except Stop Value) : Run Value := do
  match ← subject call, answer with
  | (_, .running), _ => failType "Generator is already executing"
  | (id, .waiting routine scope journal), answer =>
    match answer, journal.steps.isEmpty with
    | .ok _, _ | _, false => goOn call.machine id routine scope journal answer
    | .error stop, true =>
      setState id .ended
      finish stop
  | (_, .ended), .ok _ => Iterate.result .undefined true
  | (_, .ended), .error stop => finish stop
where
  finish : Stop → Run Value
    | .given value => Iterate.result value true
    | stop => throw stop

def next (answer : Value → Except Stop Value) (call : Call) : Run Value := do
  resume call (answer (call.argument 0))

def family : Family where
  name := "Generator"
  base := some .generator
  isGlobal := false
  shared := [⟨"next", 1, next .ok⟩, ⟨"return", 1, next (.error <| .given ·)⟩,
    ⟨"throw", 1, next (.error <| .thrown ·)⟩]
  tag := some "Generator"

end Generators

end FootprintTemplate.Script.Library
