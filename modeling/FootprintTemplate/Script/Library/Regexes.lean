import FootprintTemplate.Regex.Read
import FootprintTemplate.Script.Library.Texts

/-! Regular expressions as objects. -/
namespace FootprintTemplate.Script.Library.Regexes

open Run
open Text (Units units)

/-- `this` as an object of any kind. -/
def subject (call : Call) : Run Nat :=
  match call.this with
  | .object id => return id
  | _ => failType "'this' is not an object"

def lastPlace : Key :=
  .ofString "lastIndex"

def setLastPlace (call : Call) (id : Nat) (place : Nat) : Run Unit :=
  Member.put call.machine id lastPlace (.ofNat place)

def maker (call : Call) : Run Value := do
  let m := call.machine
  let pattern := call.argument 0
  let flags := call.argument 1
  let isRegex ← Texts.isRegex call pattern
  let isReturned ← match call.newTarget, pattern, flags with
    | none, .object id, .undefined =>
      if !isRegex then pure false
      else match ← Member.get m id (.ofString "constructor") with
        | .object maker =>
          match (← object maker).kind with
          | .native home post _ => pure (home == "RegExp" && post == .maker)
          | _ => pure false
        | _ => pure false
    | _, _, _ => pure false
  if isReturned then return pattern
  let (source, given) ← match pattern with
    | .object id =>
      match (← object id).kind with
      | .regex _ source flags => pure (Value.text source, Value.text flags)
      | _ =>
        if isRegex then
          pure (← Member.get m id (.ofString "source"), ← Member.get m id (.ofString "flags"))
        else pure (pattern, .undefined)
    | pattern => pure (pattern, .undefined)
  let flags := if flags == .undefined then given else flags
  let base ← call.base .regex
  let textOf (value : Value) : Run Units :=
    if value == .undefined then return [] else Coerce.toText m value
  let made ← Evaluate.makeRegex (← textOf source) (← textOf flags)
  match made with
  | .object id => update id fun object => { object with prototype := some base }
  | _ => pure ()
  return made

/-- Bounds as a part of a text. -/
def part (text : Array UInt16) (bounds : Option (Nat × Nat)) : Value :=
  match bounds with
  | some (first, last) => .text (text.extract first last).toList
  | none => .undefined

/-- The values of named groups. -/
def named (regex : Regex) (values : Array Value) : Run Value := do
  if regex.names.isEmpty then return .undefined
  let id ← allocate {
    prototype := none
    slots := (regex.names.map fun (name, i) =>
      (Key.ofUnits name, Slot.ordinary ((values[i]?).getD .undefined))).toArray }
  return .object id

/-- What an expression found, as a list with some members more. -/
def found (regex : Regex) (text : Array UInt16) (groups : Array (Option (Nat × Nat))) :
    Run Value := do
  let values := groups.map (part text)
  let list ← makeList values.toList
  let start := ((groups[0]?).join.getD (0, 0)).1
  let names ← named regex values
  let places ←
    if regex.flags.indices then do
      let pairs ← groups.mapM fun bounds => match bounds with
        | some (first, last) => makeList [.ofNat first, .ofNat last]
        | none => return .undefined
      let list ← makeList pairs.toList
      let names ← named regex pairs
      match list with
      | .object id => update id fun object => object.put (.ofString "groups") (.ordinary names)
      | _ => pure ()
      pure (some list)
    else pure none
  match list with
  | .object id =>
    update id fun object =>
      let object := object.put (.ofString "index") (.ordinary (.ofNat start))
      let object := object.put (.ofString "input") (.ordinary (.text text.toList))
      let object := object.put (.ofString "groups") (.ordinary names)
      match places with
      | some places => object.put (.ofString "indices") (.ordinary places)
      | none => object
  | _ => pure ()
  return list

/-- Looks for an expression where the search before it ended. -/
def searchNext (call : Call) (id : Nat) (regex : Regex) (text : Units) : Run Value := do
  let m := call.machine
  let goesOn := regex.flags.isGlobal || regex.flags.sticky
  let last ← Coerce.toLength m (← Member.get m id lastPlace)
  let start := if goesOn then last else 0
  let units := text.toArray
  let groups? := if start > units.size then none else Regex.firstMatch regex units start
  match groups? with
  | none =>
    if goesOn then setLastPlace call id 0
    return .null
  | some groups =>
    if goesOn then setLastPlace call id (((groups[0]?).join.getD (0, 0)).2)
    found regex units groups

def exec (call : Call) : Run Value := do
  let id ← subject call
  match (← object id).kind with
  | .regex regex _ _ => searchNext call id regex (← call.text 0)
  | _ => failType "RegExp.prototype.exec method called with incompatible value"

/-- Looks for an expression with its own method. -/
def search (call : Call) (id : Nat) (text : Units) : Run Value := do
  match ← Member.get call.machine id (.ofString "exec") with
  | .object routine =>
    if ← Coerce.isCallable (.object routine) then
      match ← call.machine.call (.object routine) (.object id) [.text text] with
      | .null => return .null
      | .object found => return .object found
      | _ => failType "regexp exec returned neither object nor null"
    else exec { call with this := .object id, arguments := [.text text] }
  | _ => exec { call with this := .object id, arguments := [.text text] }

def test (call : Call) : Run Value := do
  let id ← subject call
  return .truth ((← search call id (← call.text 0)) != .null)

def textMember (call : Call) (id : Nat) (name : String) : Run Units := do
  Coerce.toText call.machine (← Member.get call.machine id (.ofString name))

def toText (call : Call) : Run Value := do
  let id ← subject call
  let source ← textMember call id "source"
  return .text (47 :: source ++ 47 :: (← textMember call id "flags"))

/-- The letters of the flags, each read from its member. -/
def flags (call : Call) : Run Value := do
  let id ← subject call
  let letters ← [("hasIndices", "d"), ("global", "g"), ("ignoreCase", "i"), ("multiline", "m"),
      ("dotAll", "s"), ("unicode", "u"), ("unicodeSets", "v"), ("sticky", "y")].mapM
    fun (name, letter) => do
      return if Coerce.isTrue (← Member.get call.machine id (.ofString name)) then letter else ""
  return .ofString (String.join letters)

/-- The source as it would stand between slashes. -/
def shownSource (inSet : Bool) : Units → Units
  | [] => []
  | 92 :: unit :: rest =>
    if unit == 10 then units "\\n" ++ shownSource inSet rest
    else 92 :: unit :: shownSource inSet rest
  | 10 :: rest => units "\\n" ++ shownSource inSet rest
  | 13 :: rest => units "\\r" ++ shownSource inSet rest
  | 47 :: rest => (if inSet then [47] else [92, 47]) ++ shownSource inSet rest
  | unit :: rest => unit :: shownSource (if unit == 91 then true else inSet && unit != 93) rest

def source (call : Call) : Run Value := do
  let id ← subject call
  match (← object id).kind with
  | .regex _ source _ =>
    return .text (if source.isEmpty then units "(?:)" else shownSource false source)
  | _ =>
    if id == Origin.regex.id then return .ofString "(?:)"
    else failType "'this' is not a regular expression"

/-- A member that tells if a flag is set. -/
def flag (name : String) (isSet : Regex.Flags → Bool) : Native :=
  ⟨name, 0, fun call => do
    let id ← subject call
    match (← object id).kind with
    | .regex regex _ _ => return .truth (isSet regex.flags)
    | _ =>
      if id == Origin.regex.id then return .undefined
      else failType "'this' is not a regular expression"⟩

/-- The place after an empty match. -/
def after (text : Units) (place : Nat) (byPoint : Bool) : Nat :=
  if byPoint then place + max (Walks.firstPoint (text.drop place)).1.length 1 else place + 1

/-- The flags of an expression that matter for going on. -/
def goesBy (call : Call) (id : Nat) : Run (Bool × Bool) := do
  let flags ← textMember call id "flags"
  return (flags.contains 103, flags.contains 117 || flags.contains 118)

/-- Goes on behind an empty match. -/
def stepOver (call : Call) (id : Nat) (text own : Units) (byPoint : Bool) : Run Unit := do
  if own.isEmpty then
    let last ← Coerce.toLength call.machine (← Member.get call.machine id lastPlace)
    setLastPlace call id (after text last byPoint)

/-- All that an expression finds, from the start of the text on. -/
def searchAll (call : Call) (id : Nat) (text : Units) (byPoint : Bool) : Run (List Nat) := do
  setLastPlace call id 0
  let founds ← Execute.repeatWith (fun (before : List Nat) => do
    match ← search call id text with
    | .object found =>
      stepOver call id text
        (← Coerce.toText call.machine (← Member.get call.machine found (.index 0))) byPoint
      return .inl (found :: before)
    | _ => return .inr before) turnLimit []
  return founds.reverse

def textAt (call : Call) (found i : Nat) : Run Units := do
  Coerce.toText call.machine (← Member.get call.machine found (.ofNat i))

def findMatches (call : Call) : Run Value := do
  let id ← subject call
  let text ← call.text 0
  let (isGlobal, byPoint) ← goesBy call id
  if isGlobal then
    match ← searchAll call id text byPoint with
    | [] => return .null
    | founds => makeList (← founds.mapM fun found => do return Value.text (← textAt call found 0))
  else search call id text

/-- The maker of further expressions of the kind. -/
def copy (call : Call) (id : Nat) (flags : Units) : Run Nat := do
  let m := call.machine
  let standard := match (← object Origin.regex.id).slot? (.ofString "constructor") with
    | some (.data value _ _ _) => value
    | _ => .undefined
  let maker ← match ← Member.get m id (.ofString "constructor") with
    | .undefined => pure standard
    | .object maker =>
      match ← Member.get m maker Sign.species.key with
      | .undefined | .null => pure standard
      | maker => pure maker
    | _ => failType "property 'constructor' is not an object"
  match maker, ← Coerce.isConstructor maker with
  | .object maker, true =>
    match ← m.construct maker [.object id, .text flags] maker with
    | .object id => return id
    | _ => failType "'this' is not an object"
  | _, _ => failType "Symbol.species must be a constructor"

def matchAll (call : Call) : Run Value := do
  let id ← subject call
  let text ← call.text 0
  let flags ← textMember call id "flags"
  let other ← copy call id flags
  let last ← Coerce.toLength call.machine (← Member.get call.machine id lastPlace)
  setLastPlace call other last
  return .object (← allocate
    { prototype := some Origin.regexWalk.id
      kind := .walk (.search (.object other) text (flags.contains 103)) })

def next (call : Call) : Run Value := do
  let id ← subject call
  match (← object id).kind with
  | .walk (.search (.object regex) text all) =>
    match ← search call regex text with
    | .object found =>
      if all then
        let (_, byPoint) ← goesBy call regex
        stepOver call regex text (← textAt call found 0) byPoint
      else Walks.setWalk id .over
      Iterate.result (.object found) false
    | _ =>
      Walks.setWalk id .over
      Iterate.result .undefined true
  | .walk .over => Iterate.result .undefined true
  | _ => Walks.wrong

/-- What was found, for the text that takes its place. -/
def foundAt (call : Call) (text : Units) (found : Nat) : Run Texts.Found := do
  let m := call.machine
  let count ← Coerce.lengthOf m found
  let whole ← textAt call found 0
  let place ← Coerce.toWhole m (← Member.get m found (.ofString "index"))
  let groups ← (List.range (count - 1)).mapM fun i => do
    match ← Member.get m found (.ofNat (i + 1)) with
    | .undefined => return .undefined
    | value => return .text (← Coerce.toText m value)
  let names ← Member.get m found (.ofString "groups")
  return ⟨whole, min place.toNat text.length, groups, names⟩

def replace (call : Call) : Run Value := do
  let id ← subject call
  let text ← call.text 0
  let value ← Texts.replacer call (call.argument 1)
  let (isGlobal, byPoint) ← goesBy call id
  let founds ←
    if isGlobal then searchAll call id text byPoint
    else do
      match ← search call id text with
      | .object found => pure [found]
      | _ => pure []
  let parts ← founds.mapM fun found => do
    let found ← foundAt call text found
    return (found.place, found.whole.length, ← Texts.replacement call value text found)
  let (result, last) := parts.foldl (fun (result, last) (place, length, own) =>
    if place ≥ last then (result ++ (text.take place).drop last ++ own, place + length)
    else (result, last)) ([], 0)
  return .text (result ++ text.drop last)

def searchPlace (call : Call) : Run Value := do
  let id ← subject call
  let m := call.machine
  let text ← call.text 0
  let before ← Member.get m id lastPlace
  if !before.same (.ofNat 0) then setLastPlace call id 0
  let found ← search call id text
  if !(← Member.get m id lastPlace).same before then Member.put m id lastPlace before
  match found with
  | .object found => Member.get m found (.ofString "index")
  | _ => return .number (.ofInt (-1))

/-- Cuts a text at the matches, from a place on; the pieces, nearest first. -/
def cuts (call : Call) (other : Nat) (text : Units) (byPoint : Bool) :
    Nat → Nat → Nat → List Value → Run (List Value)
  | 0, _, _, _ => throw .exhausted
  | fuel + 1, last, place, before => do
    let m := call.machine
    if place ≥ text.length then return .text (text.drop last) :: before
    setLastPlace call other place
    match ← search call other text with
    | .object found =>
      let final ← Coerce.toLength m (← Member.get m other lastPlace)
      let final := min final text.length
      if final == last then
        cuts call other text byPoint fuel last (after text place byPoint) before
      else
        let count ← Coerce.lengthOf m found
        let groups ← (List.range (count - 1)).mapM fun i =>
          Member.get m found (.ofNat (i + 1))
        let before := groups.reverse ++ .text ((text.take place).drop last) :: before
        cuts call other text byPoint fuel final final before
    | _ => cuts call other text byPoint fuel last (after text place byPoint) before

def split (call : Call) : Run Value := do
  let id ← subject call
  let text ← call.text 0
  let flags ← textMember call id "flags"
  let byPoint := flags.contains 117 || flags.contains 118
  let other ← copy call id (if flags.contains 121 then flags else flags ++ [121])
  let limit ← Texts.limit call 1
  if limit == 0 then makeList []
  else if text.isEmpty then
    match ← search call other text with
    | .object _ => makeList []
    | _ => makeList [.text text]
  else
    let pieces ← cuts call other text byPoint (2 * text.length + 2) 0 0 []
    makeList (pieces.reverse.take limit)

def family : Family where
  name := "RegExp"
  maker := some ⟨"RegExp", 2, maker⟩
  base := some .regex
  shared := [⟨"exec", 1, exec⟩, ⟨"test", 1, test⟩, ⟨"toString", 0, toText⟩,
    ⟨"@@match", 1, findMatches⟩, ⟨"@@matchAll", 1, matchAll⟩, ⟨"@@replace", 2, replace⟩,
    ⟨"@@search", 1, searchPlace⟩, ⟨"@@split", 2, split⟩]
  computed := [⟨"flags", 0, flags⟩, ⟨"source", 0, source⟩, flag "hasIndices" (·.indices),
    flag "global" (·.isGlobal), flag "ignoreCase" (·.ignoreCase),
    flag "multiline" (·.multiline), flag "dotAll" (·.dotAll), flag "unicode" (·.unicode),
    flag "unicodeSets" (·.sets), flag "sticky" (·.sticky)]

def walkFamily : Family where
  name := "RegExp String Iterator"
  base := some .regexWalk
  isGlobal := false
  shared := [⟨"next", 0, next⟩]
  tag := some "RegExp String Iterator"

end FootprintTemplate.Script.Library.Regexes
