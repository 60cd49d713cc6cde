import FootprintTemplate.Script.Coerce

/-! Walks through the values that an object hands out one by one. -/
namespace FootprintTemplate.Script

open Run

/-- An object that hands out values, and its method for the next one. -/
structure Walker where
  source : Value
  next : Value

namespace Walker

def ofMethod (m : Machine) (value method : Value) : Run Walker := do
  match ← m.call method value [] with
  | .object id => return ⟨.object id, ← Member.get m id (.ofString "next")⟩
  | _ => failType "returned iterator is not an object"

def start (m : Machine) (value : Value) : Run Walker := do
  let method ← match value with
    | .undefined | .null => pure none
    | value => Coerce.methodOf? m value Sign.iterator.key
  match method with
  | some method => ofMethod m value method
  | none =>
    failType ("value with type \x60" ++ (← Coerce.typeName value) ++ "\x60 is not iterable")

def next? (m : Machine) (walker : Walker) : Run (Option Value) := do
  match ← m.call walker.next walker.source [] with
  | .object id =>
    if Coerce.isTrue (← Member.get m id (.ofString "done")) then return none
    else return some (← Member.get m id (.ofString "value"))
  | _ => failType "next value should be an object"

/-- Ends a walk before it is over. -/
def close (m : Machine) (walker : Walker) : Run Unit := do
  match ← Coerce.methodOf? m walker.source (.ofString "return") with
  | none => return
  | some method =>
    match ← m.call method walker.source [] with
    | .object _ => return
    | _ => failType "inner result was not an object"

/-- Ends a walk because of a failure, which is kept. -/
def abandon {α : Type} (m : Machine) (walker : Walker) (stop : Stop) : Run α := do
  match stop with
  | .thrown _ | .missing | .given _ =>
    try close m walker
    catch
      | .exhausted => throw .exhausted
      | _ => pure ()
    throw stop
  | stop => throw stop

/-- Runs a step for every value. A failing step ends the walk. -/
def forEach (m : Machine) (walker : Walker) (step : Value → Run Unit) : Run Unit :=
  repeated do
    match ← next? m walker with
    | none => return some ()
    | some value =>
      try step value
      catch stop => abandon m walker stop
      return none

end Walker

namespace Iterate

def all (m : Machine) (value : Value) : Run (List Value) := do
  let walker ← Walker.start m value
  let rec go : Nat → List Value → Run (List Value)
    | 0, _ => throw .exhausted
    | fuel + 1, before => do
      match ← walker.next? m with
      | none => return before.reverse
      | some value => go fuel (value :: before)
  go 10000000 []

/-- What a walk hands out for each step. -/
def result (value : Value) (done : Bool) : Run Value :=
  makeRecord [(.ofString "value", .ordinary value), (.ofString "done", .ordinary (.truth done))]

end Iterate

end FootprintTemplate.Script
