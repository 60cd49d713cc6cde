import FootprintTemplate.Script.Member

/-! Names: where they are found, read, changed and declared. -/
namespace FootprintTemplate.Script

open Run

inductive Place where
  | binding (scope : Nat)
  | member (owner : Nat)
  | nowhere

namespace Names

/-- The scope inside another one that holds a block's names. -/
def inner (parent : Nat) : Run Nat := do
  openScope { parent := some parent, strict := (← scope parent).strict }

/-- A name of an object counts unless the object hides it from scopes. -/
def isHidden (m : Machine) (owner : Nat) (key : Key) : Run Bool := do
  if owner == Origin.global.id then return false
  match ← Member.get m owner Sign.unscopables.key with
  | .object list => return Member.isTrue (← Member.get m list key)
  | _ => return false

/-- Looks for a name from a scope outwards. -/
def resolve (m : Machine) (from' : Nat) (name : String) : Run Place := do
  go ((← get).scopes.size + 1) from'
where
  go : Nat → Nat → Run Place
    | 0, _ => return .nowhere
    | fuel + 1, id => do
      let current ← scope id
      if (current.bindings.lookup name).isSome then return .binding id
      let owner? ← match current.owner with
        | none => pure none
        | some owner =>
          let key := Key.ofString name
          if (← Member.has m owner key) && !(← isHidden m owner key) then pure (some owner)
          else pure none
      match owner?, current.parent with
      | some owner, _ => return .member owner
      | none, some parent => go fuel parent
      | none, none => return .nowhere

def read (m : Machine) (place : Place) (name : String) : Run Value := do
  match place with
  | .binding id =>
    match ((← scope id).bindings.lookup name).bind (·.value) with
    | some value => return value
    | none => fail .reference "access of uninitialized binding"
  | .member owner => Member.get m owner (.ofString name)
  | .nowhere => fail .reference (name ++ " is not defined")

/-- The object that a routine called by name belongs to. -/
def ownerOf (place : Place) : Value :=
  match place with
  | .member owner => if owner == Origin.global.id then .undefined else .object owner
  | _ => .undefined

def replace (name : String) (change : Binding → Binding) :
    List (String × Binding) → List (String × Binding)
  | [] => []
  | (own, binding) :: rest =>
    if own == name then (own, change binding) :: rest
    else (own, binding) :: replace name change rest

/-- Gives a declared name its first value. -/
def settle (id : Nat) (name : String) (value : Value) : Run Unit :=
  updateScope id fun scope =>
    let filled (binding : Binding) : Binding := { binding with value := some value }
    { scope with bindings := replace name filled scope.bindings }

/-- Strict text gives no value to a name that stands for nothing. -/
def unknown {α : Type} (name : String) : Run α :=
  fail .reference ("cannot assign to uninitialized global property \x60" ++ name ++ "\x60")

/-- Gives a name another value. Outside strict text, unknown names become members of the global
object. -/
def write (m : Machine) (strict : Bool) (place : Place) (name : String) (value : Value) :
    Run Unit := do
  match place with
  | .binding id =>
    match (← scope id).bindings.lookup name with
    | some ⟨none, _⟩ =>
      fail .reference ("cannot assign to uninitialized binding \x60" ++ name ++ "\x60")
    | some ⟨some _, .free⟩ | none => settle id name value
    | some ⟨some _, .refused⟩ => failType ("cannot mutate an immutable binding '" ++ name ++ "'")
    | some ⟨some _, .ignored⟩ =>
      if strict then failType ("cannot mutate an immutable binding '" ++ name ++ "'")
  | .member owner =>
    let key := Key.ofString name
    let isThere ← Member.has m owner key
    if strict && !isThere then unknown name
    let done ← Member.setWithin m Member.reach owner key value (.object owner)
    if strict && !done then failType ("cannot set non-writable property: " ++ name)
  | .nowhere =>
    if strict then unknown name
    else
      let owner := Origin.global.id
      let _ ← Member.setWithin m Member.reach owner (.ofString name) value (.object owner)

/-- Declares a name in a scope, in place of one that is there. -/
def declare (id : Nat) (name : String) (binding : Binding) : Run Unit :=
  updateScope id fun scope =>
    { scope with bindings :=
        if (scope.bindings.lookup name).isSome then
          replace name (fun _ => binding) scope.bindings
        else scope.bindings ++ [(name, binding)] }

def isDeclared (id : Nat) (name : String) : Run Bool := do
  return ((← scope id).bindings.lookup name).isSome

/-- The scope that takes hoisted names. -/
def hoistingScope (id : Nat) : Run Nat := do
  go ((← get).scopes.size + 1) id
where
  go : Nat → Nat → Run Nat
    | 0, id => return id
    | fuel + 1, id => do
      let current ← scope id
      match current.hoists, current.parent with
      | false, some parent => go fuel parent
      | _, _ => return id

/-- The scope of the routine that is running, with what it knows about its call. -/
def frameOf (id : Nat) : Run (Option (Nat × Frame)) := do
  go ((← get).scopes.size + 1) id
where
  go : Nat → Nat → Run (Option (Nat × Frame))
    | 0, _ => return none
    | fuel + 1, id => do
      let current ← scope id
      match current.frame, current.parent with
      | some frame, _ => return some (id, frame)
      | none, some parent => go fuel parent
      | none, none => return none

def this (id : Nat) : Run Value := do
  match ← frameOf id with
  | some (_, frame) =>
    match frame.this with
    | some value => return value
    | none => fail .reference ("Must call super constructor in derived class before accessing " ++
        "'this' or returning from derived constructor")
  | none => return .object Origin.global.id

/-- The key that a secret name stands for in a class. -/
def secretKey (m : Machine) (id : Nat) (name : String) : Run Key := do
  match ← read m (← resolve m id ("#" ++ name)) ("#" ++ name) with
  | .symbol key => return .secret key
  | _ => return .secret 0

end Names

end FootprintTemplate.Script
