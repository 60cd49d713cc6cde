import FootprintTemplate.Script.Library

/-! The interpreter: expressions, statements and calls, each carried out with what lies one level
further down. -/
namespace FootprintTemplate.Script

open Run
open Text (Units units)

namespace Interpreter

/-- Calls what may be a routine. -/
def call (m : Machine) (routine this : Value) (arguments : List Value) : Run Value := do
  match routine with
  | .object id =>
    match (← object id).kind with
    | .closure closure => Routines.call m id closure this arguments
    | .native home post name =>
      match Library.find? home post name with
      | some native => native.run ⟨m, this, arguments, none⟩
      | none => return .undefined
    | .bound target this own => m.call (.object target) this (own ++ arguments)
    | .proxy target handler true _ =>
      let target ← Member.targetOf target
      match ← Member.trap? m (Member.getWithin m Member.reach) handler "apply" with
      | some trap => trap [.object target, this, ← makeList arguments]
      | none => m.call (.object target) this arguments
    | _ => failType "not a callable function"
  | _ => failType "not a callable function"

/-- Makes an object with what may be a routine that does so. -/
def construct (m : Machine) (id : Nat) (arguments : List Value) (newTarget : Nat) : Run Value := do
  match (← object id).kind with
  | .closure closure => Routines.construct m id closure arguments newTarget
  | .native home post name =>
    match Library.find? home post name with
    | some native => native.run ⟨m, .undefined, arguments, some newTarget⟩
    | none => failType "not a constructor"
  | .bound target _ own =>
    m.construct target (own ++ arguments) (if newTarget == id then target else newTarget)
  | .proxy target handler _ _ =>
    let target ← Member.targetOf target
    match ← Member.trap? m (Member.getWithin m Member.reach) handler "construct" with
    | some trap =>
      match ← trap [.object target, ← makeList arguments, .object newTarget] with
      | .object made => return .object made
      | _ => failType "Proxy trap constructor returned no object"
    | none => m.construct target arguments (if newTarget == id then target else newTarget)
  | _ => failType "not a constructor"

def exhausted : Machine where
  evaluate _ _ := throw .exhausted
  execute _ _ := throw .exhausted
  call _ _ _ := throw .exhausted
  construct _ _ _ := throw .exhausted
  generate _ _ := throw .exhausted
  journals := false

/-- The interpreter for the bodies of generators, whose parts are steps. What they call runs as it
always does. -/
def generating (outer : Machine) : Nat → Machine
  | 0 => exhausted
  | depth + 1 => { outer with
      evaluate := fun scope tree store =>
        Journal.value (Evaluate.expression (generating outer depth) scope tree) store
      execute := fun scope tree store =>
        Journal.completion (Execute.statement (generating outer depth) scope tree) store
      journals := true }

/-- The body of a generator. -/
def generate (m : Machine) (depth scope : Nat) (routine : Routine) : Run Value :=
  Routines.runBody (generating m depth) scope routine

/-- The interpreter for what is nested up to a depth. -/
def machine : Nat → Machine
  | 0 => exhausted
  | depth + 1 => {
      evaluate := fun scope tree store => Evaluate.expression (machine depth) scope tree store
      execute := fun scope tree store => Execute.statement (machine depth) scope tree store
      call := fun routine this arguments store =>
        call (machine depth) routine this arguments store
      construct := fun id arguments newTarget store =>
        construct (machine depth) id arguments newTarget store
      generate := fun scope routine store =>
        generate (machine depth) depth scope routine store
      journals := false }

/-- Further than anything is nested that runs. -/
def depthLimit : Nat := 1000000

def full : Machine :=
  machine depthLimit

/-- Runs a script; its value is that of its last expression. -/
def run (program : Program) : Run Value := do
  let setting : Scope → Scope := fun scope => { scope with strict := program.strict }
  updateScope Library.scriptScope setting
  for name in program.hoisted do
    let key := Key.ofString name
    if !(← Member.has full Origin.global.id key) then
      Member.create full Origin.global.id key .undefined
  Routines.declareBlock Library.scriptScope (program.body.filter (!·.isRoutine))
  for tree in program.body.filter Tree.isRoutine do
    match tree.unlabelled with
    | .routine info _ _ _ =>
      let name := info.name.getD ""
      let value ← Routines.makeOf Library.scriptScope none (units name) tree.unlabelled
      Member.create full Origin.global.id (.ofString name) value
    | _ => pure ()
  match ← Routines.executeAll full Library.scriptScope none program.body with
  | .normal value => return value.getD .undefined
  | _ => return .undefined

end Interpreter

end FootprintTemplate.Script
