import FootprintTemplate.Script.Library.Native

/-! Promises. What waits for one never goes on, so that it is of no account how one is settled. -/
namespace FootprintTemplate.Script.Library.Promises

open Run

def settlingName : String := "Settling"

/-- A routine that settles a promise. -/
def settler : Run Value := do
  return .object (← allocate {
    prototype := some Origin.routine.id
    kind := .native settlingName .own "settle"
    slots := #[(Object.lengthKey, Routines.fixedSlot (.ofNat 1)),
      (.ofString "name", Routines.fixedSlot (.ofString ""))] })

def settlingFamily : Family where
  name := settlingName
  isGlobal := false
  own := [⟨"settle", 1, fun _ => return .undefined⟩]

def isPromise (value : Value) : Run Bool := do
  match value with
  | .object id => return ((← object id).kind matches .promise)
  | _ => return false

def maker (call : Call) : Run Value := do
  if call.newTarget.isNone then failType "Promise constructor cannot be invoked without 'new'"
  let executor ← call.routine 0
  let made ← call.make .promise .promise
  match ← Run.outcome (call.machine.call executor .undefined [← settler, ← settler]) with
  | .ok _ | .error (.thrown _) => return made
  | .error stop => throw stop

/-- A further promise, of one or of something that can be waited for. -/
def further (call : Call) : Run Value := do
  if ← isPromise call.this then Routines.makePromise else failType "'this' is not a promise"

def leaveTo (name : String) (arguments : Call → List Value) (call : Call) : Run Value := do
  match ← Coerce.methodOf? call.machine call.this (.ofString name) with
  | some method => call.machine.call method call.this (arguments call)
  | none => failType "not a callable function"

def resolve (call : Call) : Run Value := do
  if ← isPromise (call.argument 0) then return call.argument 0 else Routines.makePromise

/-- One promise for those that a walk hands out. -/
def together (call : Call) : Run Value := do
  match ← Run.outcome (Iterate.all call.machine (call.argument 0)) with
  | .ok _ | .error (.thrown _) => Routines.makePromise
  | .error stop => throw stop

def withSettlers (_ : Call) : Run Value := do
  makeRecord [(.ofString "promise", .ordinary (← Routines.makePromise)),
    (.ofString "resolve", .ordinary (← settler)), (.ofString "reject", .ordinary (← settler))]

def family : Family where
  name := "Promise"
  maker := some ⟨"Promise", 1, maker⟩
  base := some .promise
  own := [⟨"all", 1, together⟩, ⟨"allSettled", 1, together⟩, ⟨"any", 1, together⟩,
    ⟨"race", 1, together⟩, ⟨"reject", 1, fun _ => Routines.makePromise⟩,
    ⟨"resolve", 1, resolve⟩, ⟨"withResolvers", 0, withSettlers⟩]
  shared := [⟨"then", 2, further⟩,
    ⟨"catch", 1, leaveTo "then" fun call => [.undefined, call.argument 0]⟩,
    ⟨"finally", 1, leaveTo "then" fun call => [call.argument 0, call.argument 0]⟩]
  tag := some "Promise"

end FootprintTemplate.Script.Library.Promises
