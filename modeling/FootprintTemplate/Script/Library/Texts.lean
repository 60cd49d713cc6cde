import FootprintTemplate.Script.Library.Walks
import FootprintTemplate.Text.Lowercase
import FootprintTemplate.Text.Uppercase

/-! Texts. -/
namespace FootprintTemplate.Script.Library

open Number (Double)
open Run
open Text (Units units)

namespace Texts

def maker (call : Call) : Run Value := do
  let text ← match call.arguments, call.newTarget with
    | [], _ => pure []
    | .symbol id :: _, none =>
      pure (units "Symbol(" ++ (((← MonadState.get).symbols[id]?).join.getD []) ++ units ")")
    | value :: _, _ => Coerce.toText call.machine value
  match call.newTarget with
  | none => return .text text
  | some _ => call.make .text (.wrapped (.text text))

def fromUnits (call : Call) : Run Value := do
  let units ← call.arguments.mapM fun value => do
    return (← Coerce.toNumber call.machine value).toUInt32.toUInt16
  return .text units

def fromPoints (call : Call) : Run Value := do
  let points ← call.arguments.mapM fun value => do
    let n ← Coerce.toNumber call.machine value
    if n.isWhole && 0 ≤ n.toInt && n.toInt ≤ 0x10FFFF then return n.toInt.toNat
    else fail .range "codepoint is not an integer or out of range"
  return .text (points.flatMap Text.unitsOfPoint)

/-- The pieces of a template as they are written, with values between them. -/
def raw (call : Call) : Run Value := do
  let m := call.machine
  let template ← Coerce.toObject (call.argument 0)
  let pieces ← Coerce.toObject (← Member.get m template (.ofString "raw"))
  let length ← Coerce.lengthOf m pieces
  let parts ← (List.range length).mapM fun i => do
    let piece ← Coerce.toText m (← Member.get m pieces (.ofNat i))
    if i + 1 < length && i + 1 < call.arguments.length then return piece ++ (← call.text (i + 1))
    else return piece
  return .text parts.flatten

/-- The text of a wrapped value. -/
def ownText (call : Call) : Run Value := do
  match call.this with
  | .text text => return .text text
  | .object id =>
    match (← object id).kind with
    | .wrapped (.text text) => return .text text
    | _ => failType "'this' is not a string"
  | _ => failType "'this' is not a string"

def unitAt (call : Call) : Run Value := do
  let text ← call.thisText
  let n ← call.whole 0
  let i := if n < 0 then n + text.length else n
  if i < 0 then return .undefined
  else return ((text[i.toNat]?).map fun unit => Value.text [unit]).getD .undefined

/-- The unit at the place that an argument gives. -/
def unitAt? (call : Call) : Run (Option UInt16) := do
  let text ← call.thisText
  let i ← call.whole 0
  return if i < 0 then none else text[i.toNat]?

def charAt (call : Call) : Run Value := do
  return .text (← unitAt? call).toList

def charCodeAt (call : Call) : Run Value := do
  match ← unitAt? call with
  | some unit => return .ofNat unit.toNat
  | none => return .number .nan

def codePointAt (call : Call) : Run Value := do
  let text ← call.thisText
  let i ← call.whole 0
  if i < 0 then return .undefined
  match Text.points ((text.drop i.toNat).take 2) with
  | point :: _ => return .ofNat point
  | [] => return .undefined

def concat (call : Call) : Run Value := do
  let text ← call.thisText
  let others ← call.arguments.mapM (Coerce.toText call.machine)
  return .text (text ++ others.flatten)

/-- An expression, or an object that says that it is used as one. -/
def isRegex (call : Call) (value : Value) : Run Bool := do
  match value with
  | .object id =>
    match ← Member.get call.machine id Sign.matching.key with
    | .undefined => return ((← object id).kind matches .regex _ _ _)
    | value => return Coerce.isTrue value
  | _ => return false

/-- The text that is looked for, which must not be an expression. -/
def needle (call : Call) : Run Units := do
  if ← isRegex call (call.argument 0) then
    failType "first argument must not be a regular expression"
  call.text 0

/-- A place in a text that an argument gives, within its bounds. -/
def place (call : Call) (i length missing : Nat) : Run Nat := do
  match call.argument i with
  | .undefined => return missing
  | _ => return min (← call.whole i).toNat length

def endsWith (call : Call) : Run Value := do
  let text ← call.thisText
  let needle ← needle call
  let final ← place call 1 text.length text.length
  return .truth (Text.opens needle.reverse (text.take final).reverse)

def startsWith (call : Call) : Run Value := do
  let text ← call.thisText
  let needle ← needle call
  let start ← place call 1 text.length 0
  return .truth (Text.opens needle (text.drop start))

def includes (call : Call) : Run Value := do
  let text ← call.thisText
  let needle ← needle call
  let start ← place call 1 text.length 0
  return .truth (Text.placeOf? needle (text.drop start)).isSome

def placeValue (found : Option Nat) : Value :=
  match found with
  | some i => .ofNat i
  | none => .number (.ofInt (-1))

def indexOf (call : Call) : Run Value := do
  let text ← call.thisText
  let needle ← call.text 0
  let start ← place call 1 text.length 0
  return placeValue ((Text.placeOf? needle (text.drop start)).map (· + start))

/-- The last place at or before a start where a text occurs. -/
def lastPlaceOf? (needle text : Units) (start : Nat) : Option Nat :=
  (List.range (min start (text.length - needle.length) + 1)).reverse.find? fun i =>
    Text.opens needle (text.drop i)

def lastIndexOf (call : Call) : Run Value := do
  let text ← call.thisText
  let needle ← call.text 0
  let start ← match ← call.number 1 with
    | .nan => pure text.length
    | _ => pure (min (← call.whole 1).toNat text.length)
  if needle.length > text.length then return placeValue none
  return placeValue (lastPlaceOf? needle text start)

def compareTo (call : Call) : Run Value := do
  let text ← call.thisText
  let other ← call.text 0
  return .number (.ofInt (if text == other then 0 else if Text.isBelow text other then -1 else 1))

/-- Characters with their accents. Texts are taken to be put together already. -/
def normalize (call : Call) : Run Value := do
  let text ← call.thisText
  match call.argument 0 with
  | .undefined => return .text text
  | _ =>
    let form ← call.text 0
    if ["NFC", "NFD", "NFKC", "NFKD"].any fun name => units name == form then return .text text
    else fail .range "The normalization form is not supported"

/-- Some text over and over, up to a length. -/
def filler (text : Units) (length : Nat) : Units :=
  ((List.replicate (length / max text.length 1 + 1) text).flatten).take length

def pad (atStart : Bool) (call : Call) : Run Value := do
  let text ← call.thisText
  let length ← Coerce.toLength call.machine (call.argument 0)
  let fill ← match call.argument 1 with
    | .undefined => pure (units " ")
    | _ => call.text 1
  if length ≤ text.length || fill.isEmpty then return .text text
  if length > Nat.pow 2 30 then fail .range "invalid string length"
  let fill := filler fill (length - text.length)
  return .text (if atStart then fill ++ text else text ++ fill)

def repeated (call : Call) : Run Value := do
  let text ← call.thisText
  match ← call.number 0 with
  | .infinity _ => fail .range "repeat count must be a positive finite number"
  | n =>
    let count := n.toInt
    if count < 0 then fail .range "repeat count must be a positive finite number"
    if count.toNat * text.length > Nat.pow 2 30 then fail .range "repeat count must not overflow"
    return .text (if text.isEmpty then [] else (List.replicate count.toNat text).flatten)

def slice (call : Call) : Run Value := do
  let text ← call.thisText
  let start ← Coerce.toPlace call.machine (call.argument 0) text.length 0
  let final ← Coerce.toPlace call.machine (call.argument 1) text.length text.length
  return .text ((text.take final).drop start)

def substring (call : Call) : Run Value := do
  let text ← call.thisText
  let start ← place call 0 text.length 0
  let final ← place call 1 text.length text.length
  return .text ((text.take (max start final)).drop (min start final))

/-- Changes the characters of a text. Surrogates that stand alone stay as they are. -/
def mapChars (change : List Char → List Char) (text : Units) : Units :=
  go (Text.points text) []
where
  go : List Nat → List Char → Units
    | [], before => flush before
    | n :: rest, before =>
      if Text.isLonePoint n then flush before ++ Text.unitsOfPoint n ++ go rest []
      else go rest (Char.ofNat n :: before)
  flush (before : List Char) : Units :=
    Text.unitsOfChars (change before.reverse)

def lower (call : Call) : Run Value := do
  return .text (mapChars (Text.lowerAfter []) (← call.thisText))

def upper (call : Call) : Run Value := do
  return .text ((Text.points (← call.thisText)).flatMap fun n =>
    (Text.upperPoints n).flatMap Text.unitsOfPoint)

def isWellFormed (call : Call) : Run Value := do
  return .truth (Text.ofUnits? (← call.thisText)).isSome

def wellFormed (call : Call) : Run Value := do
  return .text (units (Text.ofUnits (← call.thisText)))

/-- A text changed as a whole. -/
def changed (change : Units → Units) (call : Call) : Run Value := do
  return .text (change (← call.thisText))

def walk (call : Call) : Run Value := do
  let text ← call.thisText
  return .object (← allocate { prototype := some Origin.textWalk.id, kind := .walk (.text text) })

/-- What was found, for the text that takes its place. -/
structure Found where
  whole : Units
  place : Nat
  groups : List Value
  names : Value

/-- The number of a group after a dollar sign, with one digit or two. -/
def groupNumber? (count : Nat) (rest : Units) : Option (Nat × Units) :=
  let digit? (unit : UInt16) : Option Nat :=
    if 48 ≤ unit && unit ≤ 57 then some (unit.toNat - 48) else none
  match rest with
  | first :: second :: rest =>
    match digit? first, digit? second with
    | some a, some b =>
      if 1 ≤ 10 * a + b && 10 * a + b ≤ count then some (10 * a + b, rest)
      else if 1 ≤ a && a ≤ count then some (a, second :: rest)
      else none
    | some a, none => if 1 ≤ a && a ≤ count then some (a, second :: rest) else none
    | none, _ => none
  | [first] =>
    match digit? first with
    | some a => if 1 ≤ a && a ≤ count then some (a, []) else none
    | none => none
  | [] => none

/-- Fills in a text: dollar signs stand for what was found. -/
def fill (call : Call) (text : Units) (found : Found) : Nat → Units → Run Units
  | 0, rest => return rest
  | fuel + 1, 36 :: rest =>
    match rest with
    | 36 :: rest => do return 36 :: (← fill call text found fuel rest)
    | 38 :: rest => do return found.whole ++ (← fill call text found fuel rest)
    | 96 :: rest => do return text.take found.place ++ (← fill call text found fuel rest)
    | 39 :: rest => do
      return text.drop (found.place + found.whole.length) ++ (← fill call text found fuel rest)
    | rest => do
      match groupNumber? found.groups.length rest, rest with
      | some (n, rest), _ =>
        let own ← match (found.groups[n - 1]?).getD .undefined with
          | .undefined => pure []
          | value => Coerce.toText call.machine value
        return own ++ (← fill call text found fuel rest)
      | none, 60 :: inner =>
        match found.names, inner.span (· != 62) with
        | .object names, (name, 62 :: rest) =>
          let own ← match ← Member.get call.machine names (.ofUnits name) with
            | .undefined => pure []
            | value => Coerce.toText call.machine value
          return own ++ (← fill call text found fuel rest)
        | _, _ => return 36 :: (← fill call text found fuel rest)
      | none, _ => return 36 :: (← fill call text found fuel rest)
  | fuel + 1, unit :: rest => do return unit :: (← fill call text found fuel rest)
  | _, [] => return []

/-- What takes the place of something found: the outcome of a routine, or a text filled in. -/
def replacement (call : Call) (value : Value) (text : Units) (found : Found) : Run Units := do
  if ← Coerce.isCallable value then
    let names := if found.names == .undefined then [] else [found.names]
    Coerce.toText call.machine (← call.machine.call value .undefined
      (.text found.whole :: found.groups ++ [.ofNat found.place, .text text] ++ names))
  else
    match value with
    | .text template => fill call text found (template.length + 1) template
    | _ => return []

/-- A routine stays, and all else is a text. -/
def replacer (call : Call) (value : Value) : Run Value := do
  if ← Coerce.isCallable value then return value
  else return .text (← Coerce.toText call.machine value)

/-- Leaves the work to a method of the first argument, if it has one. -/
def handedOver (sign : Sign) (call : Call) (rest : Run Value) : Run Value := do
  if call.this.isNothing then failType "cannot convert null or undefined to Object"
  match call.argument 0 with
  | .undefined | .null => rest
  | value =>
    match ← Coerce.methodOf? call.machine value sign.key with
    | some method => call.machine.call method value (call.this :: call.arguments.drop 1)
    | none => rest

/-- All places of a text in another, each after the one before it. -/
def placesOf (needle text : Units) : Nat → Nat → List Nat
  | 0, _ => []
  | fuel + 1, start =>
    if start > text.length then []
    else match Text.placeOf? needle (text.drop start) with
      | none => []
      | some i => (start + i) :: placesOf needle text fuel (start + i + max needle.length 1)

/-- Puts other texts at places in a text, each as long as the needle. -/
def replaceAt (call : Call) (value : Value) (text needle : Units) (places : List Nat) :
    Run Units := do
  let parts ← places.mapM fun i => do
    return (i, ← replacement call value text ⟨needle, i, [], .undefined⟩)
  let (result, last) := parts.foldl (fun (result, last) (i, own) =>
    (result ++ (text.take i).drop last ++ own, i + needle.length)) ([], 0)
  return result ++ text.drop last

def replace (call : Call) : Run Value := handedOver .replace call do
  let text ← call.thisText
  let needle ← call.text 0
  let value ← replacer call (call.argument 1)
  return .text (← replaceAt call value text needle (Text.placeOf? needle text).toList)

def requireGlobal (call : Call) : Run Unit := do
  match call.argument 0 with
  | .object id =>
    if ← isRegex call (.object id) then
      let flags ← Member.get call.machine id (.ofString "flags")
      if flags.isNothing then failType "cannot convert 'null' or 'undefined' to object"
      if !(← Coerce.toText call.machine flags).contains 103 then
        failType "the regular expression must have the global flag"
  | _ => pure ()

def replaceAll (call : Call) : Run Value := do
  if call.this.isNothing then failType "cannot convert null or undefined to Object"
  requireGlobal call
  handedOver .replace call do
    let text ← call.thisText
    let needle ← call.text 0
    let value ← replacer call (call.argument 1)
    return .text (← replaceAt call value text needle (placesOf needle text (text.length + 1) 0))

/-- The pieces of a text between those that separate them. -/
def cut (separator text : Units) : List Units :=
  if separator.isEmpty then text.map ([·])
  else
    let places := placesOf separator text (text.length + 1) 0
    let (pieces, last) := places.foldl (fun (pieces, last) i =>
      ((text.take i).drop last :: pieces, i + separator.length)) ([], 0)
    (text.drop last :: pieces).reverse

/-- The most pieces that are asked for. -/
def limit (call : Call) (i : Nat) : Run Nat := do
  match call.argument i with
  | .undefined => return 4294967295
  | _ => return (← call.number i).toUInt32

def split (call : Call) : Run Value := handedOver .split call do
  let text ← call.thisText
  let limit ← limit call 1
  let separator ← call.text 0
  if limit == 0 then makeList []
  else match call.argument 0 with
    | .undefined => makeList [.text text]
    | _ => makeList (((cut separator text).take limit).map .text)

/-- Leaves the work to a new expression that is made of the argument. -/
def withRegex (sign : Sign) (flags : String) (call : Call) : Run Value :=
  handedOver sign call do
    let text ← call.thisText
    let maker ← Member.get call.machine Origin.regex.id (.ofString "constructor")
    let regex ← match maker with
      | .object id =>
        call.machine.construct id
          (call.argument 0 :: if flags.isEmpty then [] else [.ofString flags]) id
      | _ => failType "not a constructor"
    match ← Coerce.methodOf? call.machine regex sign.key with
    | some method => call.machine.call method regex [.text text]
    | none => failType "not a callable function"

def matchAll (call : Call) : Run Value := do
  if call.this.isNothing then failType "cannot convert null or undefined to Object"
  requireGlobal call
  withRegex .matchAll "g" call

def family : Family where
  name := "String"
  maker := some ⟨"String", 1, maker⟩
  base := some .text
  own := [⟨"fromCharCode", 1, fromUnits⟩, ⟨"fromCodePoint", 1, fromPoints⟩, ⟨"raw", 1, raw⟩]
  shared := [⟨"at", 1, unitAt⟩, ⟨"charAt", 1, charAt⟩, ⟨"charCodeAt", 1, charCodeAt⟩,
    ⟨"codePointAt", 1, codePointAt⟩, ⟨"concat", 1, concat⟩, ⟨"endsWith", 1, endsWith⟩,
    ⟨"includes", 1, includes⟩, ⟨"indexOf", 1, indexOf⟩, ⟨"isWellFormed", 0, isWellFormed⟩,
    ⟨"lastIndexOf", 1, lastIndexOf⟩, ⟨"localeCompare", 1, compareTo⟩,
    ⟨"match", 1, withRegex .matching ""⟩, ⟨"matchAll", 1, matchAll⟩, ⟨"normalize", 0, normalize⟩,
    ⟨"padEnd", 1, pad false⟩, ⟨"padStart", 1, pad true⟩, ⟨"repeat", 1, repeated⟩,
    ⟨"replace", 2, replace⟩, ⟨"replaceAll", 2, replaceAll⟩, ⟨"search", 1, withRegex .search ""⟩,
    ⟨"slice", 2, slice⟩, ⟨"split", 2, split⟩, ⟨"startsWith", 1, startsWith⟩,
    ⟨"substring", 2, substring⟩, ⟨"toLocaleLowerCase", 0, lower⟩,
    ⟨"toLocaleUpperCase", 0, upper⟩, ⟨"toLowerCase", 0, lower⟩, ⟨"toString", 0, ownText⟩,
    ⟨"toUpperCase", 0, upper⟩, ⟨"toWellFormed", 0, wellFormed⟩, ⟨"trim", 0, changed trim⟩,
    ⟨"trimEnd", 0, changed trimEnd⟩, ⟨"trimStart", 0, changed trimStart⟩,
    ⟨"valueOf", 0, ownText⟩, ⟨"@@iterator", 0, walk⟩]

end Texts

end FootprintTemplate.Script.Library
