import FootprintTemplate.Script.Evaluate.Expression

/-! The effects of statements. -/
namespace FootprintTemplate.Script

open Run
open Text (Units units)

namespace Execute

def isBlockDeclaration (tree : Tree) : Bool :=
  match tree.unlabelled with
  | .declare kind _ => kind != .hoisted
  | .ofClass _ _ _ _ _ | .routine _ _ _ _ => true
  | _ => false

/-- The scope of a block, which is its own if the block declares names. -/
def blockScope (scope : Nat) (body : List Tree) : Run Nat := do
  if body.any isBlockDeclaration then
    let inner ← Names.inner scope
    Routines.declareBlock inner body
    return inner
  else return scope

def block (m : Machine) (scope : Nat) (body : List Tree) : Run Completion := do
  Routines.executeAll m (← Journal.place m (blockScope scope body)) none body

/-- Carries out declarations. -/
def declare (m : Machine) (scope : Nat) (kind : Declared) : List Tree → Run Unit
  | [] => return
  | .item target value :: rest => do
    match kind, value with
    | .hoisted, .absent => pure ()
    | _, .absent => Target.put m scope true .undefined target
    | kind, value =>
      let value := Evaluate.namedFor target value
      match kind, target with
      | .hoisted, .name own =>
        let place ← Names.resolve m scope own
        let value ← m.evaluate scope value
        Names.write m (← Target.isStrict scope) place own value
      | kind, target => Target.put m scope (kind != .hoisted) (← m.evaluate scope value) target
    declare m scope kind rest
  | _ :: rest => declare m scope kind rest

/-- The labels before a statement. -/
def isOwn (labels : List String) (label : Option String) : Bool :=
  match label with
  | none => true
  | some label => labels.contains label

/-- What the end of a loop's body means for the loop: it goes on, or ends. -/
def turn (labels : List String) (value : Option Value) (completion : Completion) :
    Option Value × Option Completion :=
  match completion with
  | .normal next => (next.or value, none)
  | .next label next =>
    if isOwn labels label then (next.or value, none)
    else (value, some (.next label (next.or value)))
  | .leave label next =>
    if isOwn labels label then (value, some (.normal (next.or value)))
    else (value, some (.leave label (next.or value)))
  | .giveBack result => (value, some (.giveBack result))

/-- Repeats turns with a state until one gives a result. -/
def repeatWith {σ α : Type} (step : σ → Run (σ ⊕ α)) : Nat → σ → Run α
  | 0, _ => fun store => (.error .exhausted, store)
  | fuel + 1, state => fun store =>
    match step state store with
    | (.ok (.inl state), store) => repeatWith step fuel state store
    | (.ok (.inr result), store) => (.ok result, store)
    | (.error stop, store) => (.error stop, store)

def whileLoop (m : Machine) (scope : Nat) (labels : List String) (test body : Tree) :
    Run Completion :=
  repeatWith (fun (value : Option Value) => do
    if !Coerce.isTrue (← m.evaluate scope test) then return .inr (.normal value)
    match turn labels value (← m.execute scope body) with
    | (value, none) => return .inl value
    | (_, some completion) => return .inr completion) turnLimit none

def untilLoop (m : Machine) (scope : Nat) (labels : List String) (body test : Tree) :
    Run Completion :=
  repeatWith (fun (value : Option Value) => do
    match turn labels value (← m.execute scope body) with
    | (_, some completion) => return .inr completion
    | (value, none) =>
      if Coerce.isTrue (← m.evaluate scope test) then return .inl value
      else return .inr (.normal value)) turnLimit none

/-- A scope with the same names and values, for the next turn of a loop. -/
def copyScope (id : Nat) : Run Nat := do
  openScope (← Run.scope id)

/-- The test of a loop holds. A loop without one goes on. -/
def holds (m : Machine) (scope : Nat) (test : Tree) : Run Bool := do
  match test with
  | .absent => return true
  | test => return Coerce.isTrue (← m.evaluate scope test)

def countedFrom (m : Machine) (isFresh : Bool) (labels : List String) (start : Nat)
    (test update body : Tree) : Run Completion :=
  repeatWith (fun (state : Nat × Option Value) => do
    let (scope, value) := state
    if !(← holds m scope test) then return .inr (.normal value)
    match turn labels value (← m.execute scope body) with
    | (_, some completion) => return .inr completion
    | (value, none) =>
      let scope ← if isFresh then Journal.place m (copyScope scope) else pure scope
      match update with
      | .absent => pure ()
      | update =>
        let _ ← m.evaluate scope update
      return .inl (scope, value)) turnLimit (start, none)

/-- A loop with a start. Names that it declares are its own. -/
def counted (m : Machine) (scope : Nat) (labels : List String) (start test update body : Tree) :
    Run Completion := do
  match start with
  | .absent => countedFrom m false labels scope test update body
  | .declare .hoisted trees =>
    declare m scope .hoisted trees
    countedFrom m false labels scope test update body
  | .declare kind trees =>
    let inner ← Journal.place m do
      let inner ← Names.inner scope
      Routines.declareBlock inner [start]
      return inner
    let _ ← Journal.place m do
      declare m inner kind trees
      return inner
    if kind == .changing then
      countedFrom m true labels (← Journal.place m (copyScope inner)) test update body
    else countedFrom m false labels inner test update body
  | start =>
    let _ ← m.evaluate scope start
    countedFrom m false labels scope test update body

/-- Puts a value into the target of a loop; gives the scope of the turn. -/
def takeTurn (m : Machine) (scope : Nat) (target : Tree) (value : Value) : Run Nat := do
  match target with
  | .declare .hoisted [target] =>
    Target.put m scope false value target
    return scope
  | .declare kind [target] =>
    let inner ← Names.inner scope
    for name in target.boundNames do
      let change : Change := if kind == .constant then .refused else .free
      Names.declare inner name { value := none, change }
    Target.put m inner true value target
    return inner
  | target =>
    Target.put m scope false value target
    return scope

/-- The scope in which what a loop goes through is computed: its names have no values there. -/
def headScope (scope : Nat) (target : Tree) : Run Nat := do
  match target with
  | .declare .hoisted _ => return scope
  | .declare _ [target] =>
    let inner ← Names.inner scope
    for name in target.boundNames do
      Names.declare inner name { value := none }
    return inner
  | _ => return scope

/-- The listed keys of an object and its bases, each once. -/
def listedKeys (m : Machine) : Nat → List Key → Nat → Run (List (Nat × Key))
  | 0, _, _ => return []
  | fuel + 1, seen, id => do
    let keys := (← Member.keys m id).filter fun key => key.isText && !seen.contains key
    let shown ← keys.filterM fun key => do
      return ((← Member.own? m id key).map Slot.isEnumerable).getD false
    let own := shown.map fun key => (id, key)
    match ← Member.prototype m id with
    | none => return own
    | some base => return own ++ (← listedKeys m fuel (seen ++ keys) base)

def keysLoop (m : Machine) (scope : Nat) (labels : List String) (target owner body : Tree) :
    Run Completion := do
  let owner ← m.evaluate (← Journal.place m (headScope scope target)) owner
  if owner.isNothing then return .normal none
  let id ← Coerce.toObject owner
  let keys ← Journal.keys m (listedKeys m Member.reach [] id)
  repeatWith (fun (state : List (Nat × Key) × Option Value) => do
    match state with
    | ([], value) => return .inr (.normal value)
    | ((home, key) :: rest, value) =>
      let isThere ← Journal.keys m do
        return if (← Member.own? m home key).isSome then [(home, key)] else []
      if isThere.isEmpty then return .inl (rest, value)
      let inner ← Journal.place m (takeTurn m scope target key.value)
      match turn labels value (← m.execute inner body) with
      | (value, none) => return .inl (rest, value)
      | (_, some completion) => return .inr completion) turnLimit (keys, none)

/-- Ends a walk that a loop leaves early. -/
def leaving (m : Machine) (walker : Walker) (completion : Completion) (isOver : Bool) :
    Run Completion := do
  if !isOver then walker.close m
  return completion

def valuesLoop (m : Machine) (scope : Nat) (labels : List String) (target values body : Tree) :
    Run Completion := do
  let values ← m.evaluate (← Journal.place m (headScope scope target)) values
  let walker ← Journal.walker m (Walker.start m values)
  repeatWith (fun (value : Option Value) => do
    match ← Journal.item m (walker.next? m) with
    | none => return .inr (.normal value)
    | some item =>
      let completion ← try
          m.execute (← Journal.place m (takeTurn m scope target item)) body
        catch stop => Journal.abandon m walker stop
      match turn labels value completion with
      | (value, none) => return .inl value
      | (_, some completion) => return .inr (← leaving m walker completion false)) turnLimit none

/-- The cases from the one on that fits a value. -/
def casesFrom (m : Machine) (scope : Nat) (value : Value) : List Tree → Run (Option (List Tree))
  | [] => return none
  | .switchCase .absent _ :: rest => casesFrom m scope value rest
  | .switchCase test body :: rest => do
    if Operators.strictlyEqual value (← m.evaluate scope test) then
      return some (.switchCase test body :: rest)
    else casesFrom m scope value rest
  | _ :: rest => casesFrom m scope value rest

def switch (m : Machine) (scope : Nat) (value : Tree) (cases : List Tree) : Run Completion := do
  let value ← m.evaluate scope value
  let inner ← Journal.place m (blockScope scope (cases.flatMap caseBody))
  let chosen ← casesFrom m inner value cases
  let cases := chosen.getD (cases.dropWhile fun tree => !isDefaultCase tree)
  match ← Routines.executeAll m inner none (cases.flatMap caseBody) with
  | .leave none value => return .normal value
  | completion => return completion

/-- Runs what follows a failure. -/
def handle (m : Machine) (scope : Nat) (handler : Tree) (value : Value) : Run Completion := do
  match handler with
  | .handler target body =>
    let inner ← Journal.place m do
      let inner ← Names.inner scope
      for name in target.boundNames do
        Names.declare inner name { value := none }
      match target with
      | .absent => pure ()
      | target => Target.put m inner true value target
      return inner
    m.execute inner body
  | _ => throw (.thrown value)

/-- Runs what follows in any case. It decides if it does not end normally. -/
def finish (m : Machine) (scope : Nat) (finalizer : Tree) (result : Except Stop Completion) :
    Run Completion := do
  match finalizer, result with
  | .absent, .ok completion => return completion
  | .absent, .error stop => throw stop
  | _, .error .exhausted => throw .exhausted
  | _, .error .waiting => throw .waiting
  | _, .error (.yielded value) => throw (.yielded value)
  | finalizer, result =>
    match ← m.execute scope finalizer, result with
    | .normal _, .ok completion => return completion
    | .normal _, .error stop => throw stop
    | completion, _ => return completion

def guarded (m : Machine) (scope : Nat) (body handler finalizer : Tree) : Run Completion := do
  let result ← outcome do
    match ← outcome (m.execute scope body) with
    | .ok completion => return completion
    | .error (.thrown value) => handle m scope handler value
    | .error stop => throw stop
  finish m scope finalizer result

def labelled (m : Machine) (scope : Nat) (labels : List String) (body : Tree) :
    Run Completion := do
  let completion ← match body with
    | .whileLoop test body => whileLoop m scope labels test body
    | .untilLoop body test => untilLoop m scope labels body test
    | .loop start test update body => counted m scope labels start test update body
    | .keysLoop target owner body => keysLoop m scope labels target owner body
    | .valuesLoop target values body => valuesLoop m scope labels target values body
    | body => m.execute scope body
  match completion with
  | .leave (some label) value =>
    if labels.contains label then return .normal value else return completion
  | completion => return completion

/-- The labels before a statement and the statement. -/
def labelsOf : Tree → List String × Tree
  | .labelled label body =>
    let (labels, inner) := labelsOf body
    (label :: labels, inner)
  | tree => ([], tree)

def within (m : Machine) (scope : Nat) (owner body : Tree) : Run Completion := do
  let id ← Coerce.toObject (← m.evaluate scope owner)
  let inner ← Journal.place m (openScope { parent := some scope, owner := some id })
  m.execute inner body

def statement (m : Machine) (scope : Nat) (tree : Tree) : Run Completion := do
  match tree with
  | .expression value => return .normal (some (← m.evaluate scope value))
  | .declare kind trees => do
    declare m scope kind trees
    return .normal none
  | .ofClass (some own) _ _ _ _ => do
    Names.settle scope own (← m.evaluate scope tree)
    return .normal none
  | .block body => block m scope body
  | .branch test yes no =>
    if Coerce.isTrue (← m.evaluate scope test) then
      return filled (← m.execute scope yes)
    else match no with
      | .absent => return .normal (some .undefined)
      | no => return filled (← m.execute scope no)
  | .whileLoop test body => whileLoop m scope [] test body
  | .untilLoop body test => untilLoop m scope [] body test
  | .loop start test update body => counted m scope [] start test update body
  | .keysLoop target owner body => keysLoop m scope [] target owner body
  | .valuesLoop target values body => valuesLoop m scope [] target values body
  | .next label => return .next label none
  | .leave label => return .leave label none
  | .giveBack .absent => return .giveBack .undefined
  | .giveBack value => return .giveBack (← m.evaluate scope value)
  | .fail value => throw (.thrown (← m.evaluate scope value))
  | .switch value cases => switch m scope value cases
  | .guarded body handler finalizer => guarded m scope body handler finalizer
  | .labelled _ _ =>
    let (labels, body) := labelsOf tree
    labelled m scope labels body
  | .within owner body => within m scope owner body
  | _ => return .normal none
where
  /-- A branch without a value has the value undefined. -/
  filled : Completion → Completion
    | .normal none => .normal (some .undefined)
    | completion => completion

end Execute

end FootprintTemplate.Script
