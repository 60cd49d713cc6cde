import FootprintTemplate.Script.Library.Native

/-! Lists. -/
namespace FootprintTemplate.Script.Library

open Run
open Text (Units units)

namespace Lists

def get (call : Call) (id i : Nat) : Run Value :=
  Member.get call.machine id (.ofNat i)

def put (call : Call) (id i : Nat) (value : Value) : Run Unit :=
  Member.put call.machine id (.ofNat i) value

def has (call : Call) (id i : Nat) : Run Bool :=
  Member.has call.machine id (.ofNat i)

def remove (call : Call) (id i : Nat) : Run Unit := do
  if !(← Member.delete call.machine id (.ofNat i)) then failType "cannot delete property"

def setLength (call : Call) (id length : Nat) : Run Unit :=
  Member.put call.machine id Object.lengthKey (.ofNat length)

/-- `this` as an object and its length. -/
def subject (call : Call) : Run (Nat × Nat) := do
  let id ← call.object
  return (id, ← Coerce.lengthOf call.machine id)

def place (call : Call) (i length missing : Nat) : Run Nat :=
  Coerce.toPlace call.machine (call.argument i) length missing

def isMaker (id : Nat) : Run Bool := do
  match (← object id).kind with
  | .native home post _ => return home == "Array" && post == .maker
  | _ => return false

/-- An empty list, made like another one. -/
def makeLike (call : Call) (id length : Nat) : Run Nat := do
  let plain : Run Nat := allocate { prototype := some Origin.list.id, kind := .list 0 true }
  if !(← Coerce.isList (.object id)) then plain
  else
    let maker ← Member.get call.machine id (.ofString "constructor")
    let maker ← match maker with
      | .object maker =>
        if ← isMaker maker then pure Value.undefined
        else match ← Member.get call.machine maker Sign.species.key with
          | .null => pure .undefined
          | value => pure value
      | value => pure value
    match maker, ← Coerce.isConstructor maker with
    | .undefined, _ => plain
    | .object maker, true =>
      if ← isMaker maker then plain
      else match ← call.machine.construct maker [.ofNat length] maker with
        | .object id => return id
        | _ => failType "species constructor made no object"
    | _, _ => failType "Symbol.species must be a constructor"

def makeEmpty (length : Nat) : Run Nat :=
  allocate { prototype := some Origin.list.id, kind := .list length true }

/-- More items than a list may have. -/
def checkLength (n : Nat) : Run Unit :=
  if n > Coerce.lengthLimit then failType "array length is too large" else pure ()

/-- A list: of some length, or of the arguments. -/
def maker (call : Call) : Run Value := do
  let base ← call.base .list
  match call.arguments with
  | [.number n] =>
    if n.isWhole && n.toInt == (n.toUInt32 : Int) then
      return .object (← allocate { prototype := some base, kind := .list n.toUInt32 true })
    else fail .range "invalid array length"
  | items =>
    return .object (← allocate
      { prototype := some base, kind := .list items.length true, items := Object.itemsOf items })

/-- A new object for `from` and `of`, which may be called on another maker. -/
def makeFor (call : Call) (arguments : List Value) : Run Nat := do
  match call.this, ← Coerce.isConstructor call.this with
  | .object maker, true =>
    if ← isMaker maker then makeEmpty 0
    else match ← call.machine.construct maker arguments maker with
      | .object id => return id
      | _ => makeEmpty 0
  | _, _ => makeEmpty 0

def mapped (call : Call) (routine : Value) (i : Nat) (value : Value) : Run Value :=
  if routine == .undefined then return value
  else call.machine.call routine (call.argument 2) [value, .ofNat i]

def collect (call : Call) : Run Value := do
  let m := call.machine
  let source := call.argument 0
  let routine := call.argument 1
  if routine != .undefined && !(← Coerce.isCallable routine) then
    failType "the map argument is not callable"
  match ← Coerce.methodOf? m source Sign.iterator.key with
  | some method =>
    let id ← makeFor call []
    let walker ← Walker.ofMethod m source method
    let count ← Execute.repeatWith (fun (i : Nat) => do
      match ← walker.next? m with
      | none => return .inr i
      | some value =>
        try Member.create m id (.ofNat i) (← mapped call routine i value)
        catch stop => walker.abandon m stop
        return .inl (i + 1)) turnLimit 0
    setLength call id count
    return .object id
  | none =>
    let source ← Coerce.toObject source
    let length ← Coerce.lengthOf m source
    let id ← makeFor call [.ofNat length]
    forRange (fun i => do
      Member.create m id (.ofNat i) (← mapped call routine i (← get call source i))) length 0
    setLength call id length
    return .object id

def of (call : Call) : Run Value := do
  let id ← makeFor call [.ofNat call.arguments.length]
  forRange (fun i => Member.create call.machine id (.ofNat i) (call.argument i))
    call.arguments.length 0
  setLength call id call.arguments.length
  return .object id

def itemAt (call : Call) : Run Value := do
  let (id, length) ← subject call
  let n ← call.whole 0
  let i := if n < 0 then n + length else n
  if i < 0 || i ≥ length then return .undefined else get call id i.toNat

/-- Adds items to a list from a place on. A hole stays one. -/
def append (call : Call) (target next source length : Nat) : Run Unit :=
  forRange (fun i => do
    if ← has call source i then
      Member.create call.machine target (.ofNat (next + i)) (← get call source i)) length 0

def isSpread (call : Call) (value : Value) : Run Bool := do
  match value with
  | .object id =>
    match ← Member.get call.machine id Sign.isConcatSpreadable.key with
    | .undefined => Coerce.isList value
    | value => return Coerce.isTrue value
  | _ => return false

def concatAll (call : Call) (target : Nat) (next : Nat) : List Value → Run Nat
  | [] => return next
  | value :: rest => do
    match value, ← isSpread call value with
    | .object source, true =>
      let length ← Coerce.lengthOf call.machine source
      checkLength (next + length)
      append call target next source length
      concatAll call target (next + length) rest
    | value, _ =>
      Member.create call.machine target (.ofNat next) value
      concatAll call target (next + 1) rest

def concat (call : Call) : Run Value := do
  let id ← call.object
  let target ← makeLike call id 0
  let length ← concatAll call target 0 (.object id :: call.arguments)
  setLength call target length
  return .object target

def moveItem (call : Call) (id source target : Nat) : Run Unit := do
  if ← has call id source then put call id target (← get call id source) else remove call id target

def copyWithin (call : Call) : Run Value := do
  let (id, length) ← subject call
  let target ← place call 0 length 0
  let source ← place call 1 length 0
  let final ← place call 2 length length
  let count := min (final - source) (length - target)
  if source < target && target < source + count then
    forRange (fun i =>
      let j := count - 1 - i
      moveItem call id (source + j) (target + j)) count 0
  else forRange (fun i => moveItem call id (source + i) (target + i)) count 0
  return .object id

def fill (call : Call) : Run Value := do
  let (id, length) ← subject call
  let start ← place call 1 length 0
  let final ← place call 2 length length
  forRange (fun i => put call id i (call.argument 0)) (final - start) start
  return .object id

/-- Calls the routine of the first argument for an item. -/
def ask (call : Call) (routine : Value) (id i : Nat) (value : Value) : Run Value :=
  call.machine.call routine (call.argument 1) [value, .ofNat i, .object id]

def every (call : Call) : Run Value := do
  let (id, length) ← subject call
  let routine ← call.routine 0
  let found ← first? (fun i => do
    if !(← has call id i) then return none
    let value ← get call id i
    return if Coerce.isTrue (← ask call routine id i value) then none else some ()) length 0
  return .truth found.isNone

def any (call : Call) : Run Value := do
  let (id, length) ← subject call
  let routine ← call.routine 0
  let found ← first? (fun i => do
    if !(← has call id i) then return none
    let value ← get call id i
    return if Coerce.isTrue (← ask call routine id i value) then some () else none) length 0
  return .truth found.isSome

def forEach (call : Call) : Run Value := do
  let (id, length) ← subject call
  let routine ← call.routine 0
  forRange (fun i => do
    if ← has call id i then
      let _ ← ask call routine id i (← get call id i)) length 0
  return .undefined

def map (call : Call) : Run Value := do
  let (id, length) ← subject call
  let routine ← call.routine 0
  let target ← makeLike call id length
  if (← object target).kind matches .list 0 true then setLength call target length
  forRange (fun i => do
    if ← has call id i then
      let value ← ask call routine id i (← get call id i)
      Member.create call.machine target (.ofNat i) value) length 0
  return .object target

def filter (call : Call) : Run Value := do
  let (id, length) ← subject call
  let routine ← call.routine 0
  let target ← makeLike call id 0
  let kept ← (List.range length).filterMapM fun i => do
    if !(← has call id i) then return none
    let value ← get call id i
    return if Coerce.isTrue (← ask call routine id i value) then some value else none
  forRange (fun i => Member.create call.machine target (.ofNat i) ((kept[i]?).getD .undefined))
    kept.length 0
  return .object target

/-- The first item from either end for which the routine holds, and its place. -/
def findFrom (call : Call) (backwards : Bool) : Run (Option (Nat × Value)) := do
  let (id, length) ← subject call
  let routine ← call.routine 0
  first? (fun j => do
    let i := if backwards then length - 1 - j else j
    let value ← get call id i
    return if Coerce.isTrue (← ask call routine id i value) then some (i, value) else none) length 0

def find (backwards : Bool) (call : Call) : Run Value := do
  return ((← findFrom call backwards).map Prod.snd).getD .undefined

def findIndex (backwards : Bool) (call : Call) : Run Value := do
  match ← findFrom call backwards with
  | some (i, _) => return .ofNat i
  | none => return .number (.ofInt (-1))

/-- The items of a list with those of lists in it, down to some depth. -/
def flatten (call : Call) : Nat → Nat → Nat → Run (List Value)
  | 0, _, _ => throw .exhausted
  | fuel + 1, depth, id => do
    let length ← Coerce.lengthOf call.machine id
    let parts ← (List.range length).mapM fun i => do
      if !(← has call id i) then return []
      let value ← get call id i
      match value, depth, ← Coerce.isList value with
      | .object inner, depth + 1, true => flatten call fuel depth inner
      | value, _, _ => return [value]
    return parts.flatten

def fillNew (call : Call) (target : Nat) (values : List Value) : Run Unit :=
  let items := values.toArray
  forRange (fun i => Member.create call.machine target (.ofNat i) ((items[i]?).getD .undefined))
    items.size 0

def flat (call : Call) : Run Value := do
  let (id, _) ← subject call
  let depth ← match call.argument 0 with
    | .undefined => pure 1
    | _ => pure (← call.whole 0)
  let values ← flatten call 1000 (min depth.toNat 900) id
  let target ← makeLike call id 0
  fillNew call target values
  return .object target

def flatMap (call : Call) : Run Value := do
  let (id, length) ← subject call
  let routine ← call.routine 0
  let parts ← (List.range length).mapM fun i => do
    if !(← has call id i) then return []
    let value ← ask call routine id i (← get call id i)
    match value, ← Coerce.isList value with
    | .object inner, true => flatten call 1000 0 inner
    | value, _ => return [value]
  let target ← makeLike call id 0
  fillNew call target parts.flatten
  return .object target

def sameItem : Value → Value → Bool
  | .number a, .number b => a.equal b || (a.isNaN && b.isNaN)
  | a, b => a == b

def includes (call : Call) : Run Value := do
  let (id, length) ← subject call
  let start ← place call 1 length 0
  let found ← first? (fun i => do
    return if sameItem (← get call id i) (call.argument 0) then some () else none)
    (length - start) start
  return .truth found.isSome

def placeValue (found : Option Nat) : Value :=
  match found with
  | some i => .ofNat i
  | none => .number (.ofInt (-1))

def indexOf (call : Call) : Run Value := do
  let (id, length) ← subject call
  let start ← place call 1 length 0
  placeValue <$> first? (fun i => do
    if !(← has call id i) then return none
    return if Operators.strictlyEqual (← get call id i) (call.argument 0) then some i else none)
    (length - start) start

def lastIndexOf (call : Call) : Run Value := do
  let (id, length) ← subject call
  let count ←
    if call.arguments.length < 2 then pure length
    else do
      let n ← call.whole 1
      pure (if n < 0 then (n + length + 1).toNat else min (n.toNat + 1) length)
  placeValue <$> first? (fun j => do
    let i := count - 1 - j
    if !(← has call id i) then return none
    return if Operators.strictlyEqual (← get call id i) (call.argument 0) then some i else none)
    count 0

/-- Makes the text of a list, unless it is being made already. -/
def joiningOnce (id : Nat) (run : Run Units) : Run Units := do
  if (← MonadState.get).joining.contains id then return []
  modify fun store => { store with joining := id :: store.joining }
  let result ← Run.outcome run
  modify fun store => { store with joining := store.joining.drop 1 }
  match result with
  | .ok text => return text
  | .error stop => throw stop

def textOf (call : Call) (value : Value) : Run Units :=
  if value.isNothing then return [] else Coerce.toText call.machine value

/-- The texts of the items with a text between them. -/
def joinWith (call : Call) (id : Nat) (separator : Units) (item : Value → Run Units) :
    Run Units := joiningOnce id do
  let length ← Coerce.lengthOf call.machine id
  let parts ← (List.range length).mapM fun i => do item (← get call id i)
  return List.flatten (parts.intersperse separator)

def join (call : Call) : Run Value := do
  let id ← call.object
  let separator ← match call.argument 0 with
    | .undefined => pure (units ",")
    | _ => call.text 0
  return .text (← joinWith call id separator (textOf call))

def toText (call : Call) : Run Value := do
  let id ← call.object
  let routine ← Member.get call.machine id (.ofString "join")
  if ← Coerce.isCallable routine then call.machine.call routine (.object id) []
  else return .text (units "[object Array]")

def toLocaleText (call : Call) : Run Value := do
  let id ← call.object
  return .text (← joinWith call id (units ",") fun value => do
    if value.isNothing then return []
    match ← Coerce.methodOf? call.machine value (.ofString "toLocaleString") with
    | some method => Coerce.toText call.machine (← call.machine.call method value [])
    | none => failType "not a callable function")

def pop (call : Call) : Run Value := do
  let (id, length) ← subject call
  if length == 0 then
    setLength call id 0
    return .undefined
  else
    let value ← get call id (length - 1)
    remove call id (length - 1)
    setLength call id (length - 1)
    return value

def push (call : Call) : Run Value := do
  let (id, length) ← subject call
  checkLength (length + call.arguments.length)
  forRange (fun i => put call id (length + i) (call.argument i)) call.arguments.length 0
  setLength call id (length + call.arguments.length)
  return .ofNat (length + call.arguments.length)

/-- Combines the items with a value, from either end. -/
def reduce (backwards : Bool) (call : Call) : Run Value := do
  let (id, length) ← subject call
  let routine ← call.routine 0
  let order (j : Nat) : Nat := if backwards then length - 1 - j else j
  let start? ←
    if call.arguments.length ≥ 2 then pure (some (call.argument 1, 0))
    else first? (fun j => do
      if ← has call id (order j) then return some (← get call id (order j), j + 1)
      else return none) length 0
  match start? with
  | none => failType "reduce of empty array with no initial value"
  | some (value, next) =>
    Execute.repeatWith (fun (state : Value × Nat) => do
      let (value, j) := state
      if j ≥ length then return .inr value
      let i := order j
      if ← has call id i then
        let item ← get call id i
        let value ← call.machine.call routine .undefined [value, item, .ofNat i, .object id]
        return .inl (value, j + 1)
      else return .inl (value, j + 1)) turnLimit (value, next)

def reverse (call : Call) : Run Value := do
  let (id, length) ← subject call
  forRange (fun i => do
    let j := length - 1 - i
    let hasLow ← has call id i
    let low ← if hasLow then get call id i else pure .undefined
    let hasHigh ← has call id j
    let high ← if hasHigh then get call id j else pure .undefined
    if hasHigh then put call id i high else if hasLow then remove call id i
    if hasLow then put call id j low else if hasHigh then remove call id j) (length / 2) 0
  return .object id

def shift (call : Call) : Run Value := do
  let (id, length) ← subject call
  if length == 0 then
    setLength call id 0
    return .undefined
  else
    let value ← get call id 0
    forRange (fun i => moveItem call id i (i - 1)) (length - 1) 1
    remove call id (length - 1)
    setLength call id (length - 1)
    return value

def unshift (call : Call) : Run Value := do
  let (id, length) ← subject call
  let count := call.arguments.length
  checkLength (length + count)
  if count > 0 then
    forRange (fun i =>
      let j := length - 1 - i
      moveItem call id j (j + count)) length 0
    forRange (fun i => put call id i (call.argument i)) count 0
  setLength call id (length + count)
  return .ofNat (length + count)

def slice (call : Call) : Run Value := do
  let (id, length) ← subject call
  let start ← place call 0 length 0
  let final ← place call 1 length length
  let target ← makeLike call id (final - start)
  forRange (fun i => do
    if ← has call id (start + i) then
      Member.create call.machine target (.ofNat i) (← get call id (start + i))) (final - start) 0
  setLength call target (final - start)
  return .object target

/-- How many items are cut out from a start on. -/
def cutCount (call : Call) (length start : Nat) : Run Nat := do
  match call.arguments with
  | [] => return 0
  | [_] => return length - start
  | _ => return min (← call.whole 1).toNat (length - start)

def splice (call : Call) : Run Value := do
  let (id, length) ← subject call
  let start ← place call 0 length 0
  let count ← cutCount call length start
  let items := call.arguments.drop 2
  checkLength (length - count + items.length)
  let target ← makeLike call id count
  forRange (fun i => do
    if ← has call id (start + i) then
      Member.create call.machine target (.ofNat i) (← get call id (start + i))) count 0
  setLength call target count
  let tail := length - start - count
  if items.length < count then
    forRange (fun i => moveItem call id (start + count + i) (start + items.length + i)) tail 0
    forRange (fun i => remove call id (length - 1 - i)) (count - items.length) 0
  else if items.length > count then
    forRange (fun i =>
      let j := tail - 1 - i
      moveItem call id (start + count + j) (start + items.length + j)) tail 0
  forRange (fun i => put call id (start + i) ((items[i]?).getD .undefined)) items.length 0
  setLength call id (length - count + items.length)
  return .object target

/-- The order that a routine gives, or that of the texts. Undefined comes last. -/
def isAfter (call : Call) (routine a b : Value) : Run Bool := do
  match a, b with
  | .undefined, .undefined => return false
  | .undefined, _ => return true
  | _, .undefined => return false
  | a, b =>
    if routine == .undefined then
      let a ← Coerce.toText call.machine a
      let b ← Coerce.toText call.machine b
      return Text.isBelow b a
    else
      let order ← Coerce.toNumber call.machine (← call.machine.call routine .undefined [a, b])
      return (Number.Double.zero false).below order

/-- Two sorted lists in one. -/
def merge (after : Value → Value → Run Bool) : Nat → List Value → List Value → Run (List Value)
  | 0, first, second => return first ++ second
  | _, [], second => return second
  | _, first, [] => return first
  | fuel + 1, a :: first, b :: second => do
    if ← after a b then return b :: (← merge after fuel (a :: first) second)
    else return a :: (← merge after fuel first (b :: second))

/-- Sorts by halves; items that are alike keep their order. -/
def sortWith (after : Value → Value → Run Bool) : Nat → List Value → Run (List Value)
  | 0, items => return items
  | _, [] => return []
  | _, [item] => return [item]
  | fuel + 1, items => do
    let middle := items.length / 2
    let first ← sortWith after fuel (items.take middle)
    let second ← sortWith after fuel (items.drop middle)
    merge after (items.length + 1) first second

def comparer (call : Call) : Run Value := do
  let routine := call.argument 0
  if routine != .undefined && !(← Coerce.isCallable routine) then
    failType "the comparison function must be a function or undefined"
  return routine

def sort (call : Call) : Run Value := do
  let routine ← comparer call
  let (id, length) ← subject call
  let items ← (List.range length).filterMapM fun i => do
    if ← has call id i then return some (← get call id i) else return none
  let sorted := (← sortWith (isAfter call routine) 64 items).toArray
  forRange (fun i => put call id i ((sorted[i]?).getD .undefined)) sorted.size 0
  forRange (fun i => do
    if ← has call id i then remove call id i) (length - sorted.size) sorted.size
  return .object id

/-- All items, holes as undefined. -/
def allItems (call : Call) : Run (List Value) := do
  let (id, length) ← subject call
  if length ≥ indexLimit then fail .range "invalid array length"
  (List.range length).mapM (get call id)

def toReversed (call : Call) : Run Value := do
  makeList (← allItems call).reverse

def toSorted (call : Call) : Run Value := do
  let routine ← comparer call
  makeList (← sortWith (isAfter call routine) 64 (← allItems call))

def toSpliced (call : Call) : Run Value := do
  let (_, length) ← subject call
  let start ← place call 0 length 0
  let count ← cutCount call length start
  let items ← allItems call
  makeList (items.take start ++ call.arguments.drop 2 ++ items.drop (start + count))

def replaced (call : Call) : Run Value := do
  let (_, length) ← subject call
  let n ← call.whole 0
  let i := if n < 0 then n + length else n
  if i < 0 || i ≥ length then fail .range "invalid index for the array"
  makeList ((← allItems call).set i.toNat (call.argument 1))

def walk (listing : Listing) (call : Call) : Run Value := do
  let id ← call.object
  return .object (← allocate
    { prototype := some Origin.listWalk.id, kind := .walk (.list (.object id) 0 listing) })

def family : Family where
  name := "Array"
  maker := some ⟨"Array", 1, maker⟩
  base := some .list
  own := [⟨"from", 1, collect⟩,
    ⟨"isArray", 1, fun call => do return .truth (← Coerce.isList (call.argument 0))⟩,
    ⟨"of", 0, of⟩]
  shared := [⟨"at", 1, itemAt⟩, ⟨"concat", 1, concat⟩, ⟨"copyWithin", 2, copyWithin⟩,
    ⟨"entries", 0, walk .entries⟩, ⟨"every", 1, every⟩, ⟨"fill", 1, fill⟩,
    ⟨"filter", 1, filter⟩, ⟨"find", 1, find false⟩, ⟨"findIndex", 1, findIndex false⟩,
    ⟨"findLast", 1, find true⟩, ⟨"findLastIndex", 1, findIndex true⟩, ⟨"flat", 0, flat⟩,
    ⟨"flatMap", 1, flatMap⟩, ⟨"forEach", 1, forEach⟩, ⟨"includes", 1, includes⟩,
    ⟨"indexOf", 1, indexOf⟩, ⟨"join", 1, join⟩, ⟨"keys", 0, walk .keys⟩,
    ⟨"lastIndexOf", 1, lastIndexOf⟩, ⟨"map", 1, map⟩, ⟨"pop", 0, pop⟩, ⟨"push", 1, push⟩,
    ⟨"reduce", 1, reduce false⟩, ⟨"reduceRight", 1, reduce true⟩, ⟨"reverse", 0, reverse⟩,
    ⟨"shift", 0, shift⟩, ⟨"slice", 2, slice⟩, ⟨"some", 1, any⟩, ⟨"sort", 1, sort⟩,
    ⟨"splice", 2, splice⟩, ⟨"toLocaleString", 0, toLocaleText⟩, ⟨"toReversed", 0, toReversed⟩,
    ⟨"toSorted", 1, toSorted⟩, ⟨"toSpliced", 2, toSpliced⟩, ⟨"toString", 0, toText⟩,
    ⟨"unshift", 1, unshift⟩, ⟨"values", 0, walk .values⟩, ⟨"with", 2, replaced⟩]

end Lists

end FootprintTemplate.Script.Library
