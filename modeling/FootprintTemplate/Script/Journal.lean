import FootprintTemplate.Script.Iterate

/-! Steps of generators, which are taken once and looked up when the generator goes on. -/
namespace FootprintTemplate.Script

open Run

namespace Journal

/-- The journal before the next step, with that step at its end. -/
def closed (journal : Journal) (i : Nat) (result : Except Stop Mark) : Journal :=
  ⟨(journal.steps.extract 0 i).push (some result), i + 1⟩

/-- A step that has begun. -/
def opened (journal : Journal) : Journal :=
  let i := journal.next
  ⟨if journal.steps.size ≤ i then journal.steps.push none else journal.steps, i + 1⟩

def change (f : Journal → Journal) : Run Unit :=
  modify fun store => { store with journal := f store.journal }

/-- What the next step gave, if it is at its end. -/
def recorded? : Run (Option (Except Stop Mark)) := do
  let journal := (← get).journal
  match journal.steps[journal.next]? with
  | some (some result) =>
    change fun journal => { journal with next := journal.next + 1 }
    return some result
  | _ => return none

/-- Takes a step, or looks up what it gave. -/
def step {α : Type} (pack : α → Mark) (unpack : Mark → Option α) (run : Run α) : Run α := do
  match ← recorded? with
  | some (.ok mark) =>
    match unpack mark with
    | some result => return result
    | none => throw .exhausted
  | some (.error stop) => throw stop
  | none =>
    let i := (← get).journal.next
    change opened
    match ← outcome run with
    | .ok result =>
      change fun journal => journal.closed i (.ok (pack result))
      return result
    | .error (.yielded value) => throw (.yielded value)
    | .error .exhausted => throw .exhausted
    | .error .waiting => throw .waiting
    | .error stop =>
      change fun journal => journal.closed i (.error stop)
      throw stop

def Mark.value? : Mark → Option Value
  | .value value => some value
  | _ => none

def Mark.completion? : Mark → Option Completion
  | .completion completion => some completion
  | _ => none

def Mark.place? : Mark → Option Nat
  | .place id => some id
  | _ => none

def Mark.walker? : Mark → Option Walker
  | .walker source next => some ⟨source, next⟩
  | _ => none

def Mark.item? : Mark → Option (Option Value)
  | .item value => some value
  | _ => none

def Mark.keys? : Mark → Option (List (Nat × Key))
  | .keys keys => some keys
  | _ => none

def value (run : Run Value) : Run Value :=
  step .value Mark.value? run

def completion (run : Run Completion) : Run Completion :=
  step .completion Mark.completion? run

/-- A scope that is opened once. -/
def place (m : Machine) (run : Run Nat) : Run Nat :=
  if m.journals then step .place Mark.place? run else run

def walker (m : Machine) (run : Run Walker) : Run Walker :=
  if m.journals then step (fun walker => .walker walker.source walker.next) Mark.walker? run
  else run

def item (m : Machine) (run : Run (Option Value)) : Run (Option Value) :=
  if m.journals then step .item Mark.item? run else run

def keys (m : Machine) (run : Run (List (Nat × Key))) : Run (List (Nat × Key)) :=
  if m.journals then step .keys Mark.keys? run else run

/-- Ends a walk because of a failure, which is kept. -/
def abandon {α : Type} (m : Machine) (walker : Walker) (stop : Stop) : Run α := do
  match stop with
  | .thrown _ | .missing | .given _ =>
    let _ ← item m do
      try walker.close m
      catch
        | .exhausted => throw .exhausted
        | _ => pure ()
      return none
    throw stop
  | stop => throw stop

/-- Hands out a value. The answer is what the generator is given when it goes on. -/
def hand (value : Value) : Run Value := do
  match ← recorded? with
  | some (.ok mark) => return (Mark.value? mark).getD .undefined
  | some (.error stop) => throw stop
  | none => throw (.yielded value)

/-- The method of a walk with a name, called with a value. -/
def ask? (m : Machine) (walker : Walker) (name : String) (value : Value) :
    Run (Option Value) := do
  match ← Coerce.methodOf? m walker.source (.ofString name) with
  | some method => return some (← m.call method walker.source [value])
  | none => return none

/-- What a walk gave: its end with a value, or the value that it hands out. -/
def isOver (m : Machine) (result : Value) : Run (Bool × Value) := do
  match result with
  | .object id =>
    let done := Coerce.isTrue (← Member.get m id (.ofString "done"))
    return (done, ← Member.get m id (.ofString "value"))
  | _ => failType "next value should be an object"

/-- Hands out all values of a walk; gives the value with which it ends. -/
def handAll (m : Machine) (source : Value) : Run Value := do
  let walker ← walker m (Walker.start m source)
  let rec go : Nat → Except Stop Value → Run Value
    | 0, _ => throw .exhausted
    | fuel + 1, answer => do
      let result ← Journal.value do
        match answer with
        | .ok value => m.call walker.next walker.source [value]
        | .error (.thrown value) =>
          match ← ask? m walker "throw" value with
          | some result => return result
          | none =>
            walker.close m
            failType "iterator does not have a throw method"
        | .error (.given value) =>
          match ← ask? m walker "return" value with
          | some result =>
            let (done, value) ← isOver m result
            if done then throw (.given value) else return result
          | none => throw (.given value)
        | .error stop => throw stop
      let (done, value) ← isOver m result
      if done then return value
      match ← outcome (hand value) with
      | .error (.yielded value) => throw (.yielded value)
      | answer => go fuel answer
  go 1000000 (.ok .undefined)

end Journal

end FootprintTemplate.Script
