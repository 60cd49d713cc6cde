import FootprintTemplate.Number.Read
import FootprintTemplate.Regex.Match
import FootprintTemplate.Script.Member
import FootprintTemplate.Script.Quoted

/-! Values taken as texts, numbers, keys or objects. -/
namespace FootprintTemplate.Script

open Number (Double)
open Run
open Text (Units units)

def numberText (n : Double) : Units :=
  Text.unitsOfChars (Number.scriptStyle.chars n)

/-- Without the blanks at both ends. -/
def trimStart (text : Units) : Units :=
  text.dropWhile fun u => Regex.isSpace u.toNat

def trimEnd (text : Units) : Units :=
  (trimStart text.reverse).reverse

def trim (text : Units) : Units :=
  trimEnd (trimStart text)

/-- Digits of a base other than ten after a zero and the letter of the base. -/
def basedNumber? : List Char → Option Nat
  | '0' :: c :: digits =>
    let base? : Option Nat := match c with
      | 'x' | 'X' => some 16
      | 'o' | 'O' => some 8
      | 'b' | 'B' => some 2
      | _ => none
    base?.bind fun base =>
      if !digits.isEmpty && digits.all fun c => (digitIn? base c).isSome then
        some (valueIn base digits)
      else none
  | _ => none

/-- The number that a text spells. A blank text is zero. -/
def textNumber (text : Units) : Double :=
  let chars := (Text.ofUnits (trim text)).toList
  if chars.isEmpty then .zero false
  else match basedNumber? chars with
    | some n => .ofDecimal false n 0
    | none =>
      let (sign, rest) := Number.takeSign chars
      let negative := sign == some '-'
      if rest == "Infinity".toList then .infinity negative
      else (Number.readDecimal? negative rest).getD .nan

def textInteger? (text : Units) : Option Int :=
  let chars := (Text.ofUnits (trim text)).toList
  if chars.isEmpty then some 0
  else match basedNumber? chars with
    | some n => some n
    | none =>
      let (sign, digits) := Number.takeSign chars
      if digits.isEmpty || !digits.all Number.isAsciiDigit then none
      else
        let n : Int := Number.naturalOf digits
        some (if sign == some '-' then -n else n)

namespace Coerce

def isTrue (value : Value) : Bool :=
  Member.isTrue value

def isCallable (value : Value) : Run Bool :=
  match value with
  | .object id => return (← object id).isCallable
  | _ => return false

def typeName (value : Value) : Run String :=
  match value with
  | .undefined => return "undefined"
  | .null => return "object"
  | .truth _ => return "boolean"
  | .number _ => return "number"
  | .integer _ => return "bigint"
  | .text _ => return "string"
  | .symbol _ => return "symbol"
  | .object id => return if (← object id).isCallable then "function" else "object"

/-- The object in which the members of a value are looked for. -/
def originOf? : Value → Option Nat
  | .undefined | .null => none
  | .truth _ => some Origin.truth.id
  | .number _ => some Origin.number.id
  | .integer _ => some Origin.integer.id
  | .text _ => some Origin.text.id
  | .symbol _ => some Origin.symbol.id
  | .object id => some id

def toObject (value : Value) : Run Nat :=
  match value, originOf? value with
  | .object id, _ => return id
  | value, some origin => allocate { prototype := some origin, kind := .wrapped value }
  | _, none => failType "cannot convert 'null' or 'undefined' to object"

/-- The member of any value. -/
def memberOf (m : Machine) (value : Value) (key : Key) : Run Value :=
  match value, key, originOf? value with
  | .text text, .index i, _ =>
    match text[i]? with
    | some unit => return .text [unit]
    | none => Member.getWithin m Member.reach Origin.text.id key value
  | .text text, key, _ =>
    if key == Object.lengthKey then return .ofNat text.length
    else Member.getWithin m Member.reach Origin.text.id key value
  | value, key, some origin => Member.getWithin m Member.reach origin key value
  | _, _, none => failType "cannot convert 'null' or 'undefined' to object"

/-- The routine that a member holds, if it is not missing. -/
def methodOf? (m : Machine) (value : Value) (key : Key) : Run (Option Value) := do
  match ← memberOf m value key with
  | .undefined | .null => return none
  | routine =>
    if ← isCallable routine then return some routine
    else failType "value returned for property of object is not a function"

/-- What a value is turned into, if the context leaves a choice. -/
inductive Hint where
  | default
  | number
  | text
deriving DecidableEq

def Hint.name : Hint → String
  | default => "default"
  | number => "number"
  | text => "string"

/-- The first of two methods that gives a value that is no object. -/
def firstPlain (m : Machine) (id : Nat) : List String → Run Value
  | [] => failType "cannot convert object to primitive value"
  | name :: rest => do
    let routine ← Member.get m id (.ofString name)
    if ← isCallable routine then
      match ← m.call routine (.object id) [] with
      | .object _ => firstPlain m id rest
      | value => return value
    else firstPlain m id rest

/-- A value that is no object. -/
def toPlain (m : Machine) (hint : Hint) (value : Value) : Run Value :=
  match value with
  | .object id => do
    match ← methodOf? m value Sign.toPrimitive.key with
    | some routine =>
      match ← m.call routine value [.ofString hint.name] with
      | .object _ => failType "cannot convert object to primitive value"
      | value => return value
    | none =>
      firstPlain m id (if hint == .text then ["toString", "valueOf"] else ["valueOf", "toString"])
  | value => return value

/-- The text of a value that is no object. -/
def plainText (value : Value) : Run Units :=
  match value with
  | .undefined => return units "undefined"
  | .null => return units "null"
  | .truth b => return units (if b then "true" else "false")
  | .number n => return numberText n
  | .integer n => return units (toString n)
  | .text text => return text
  | .symbol _ => failType "can't convert symbol to string"
  | .object _ => return []

def toText (m : Machine) (value : Value) : Run Units := do
  plainText (← toPlain m .text value)

def plainNumber (value : Value) : Run Double :=
  match value with
  | .undefined => return .nan
  | .null => return .zero false
  | .truth b => return .ofNat (if b then 1 else 0)
  | .number n => return n
  | .integer _ => failType "argument must not be a bigint"
  | .text text => return textNumber text
  | .symbol _ => failType "argument must not be a symbol"
  | .object _ => return .nan

def toNumber (m : Machine) (value : Value) : Run Double := do
  plainNumber (← toPlain m .number value)

/-- A number of 64 bits or an integer. -/
def toNumeric (m : Machine) (value : Value) : Run (Double ⊕ Int) := do
  match ← toPlain m .number value with
  | .integer n => return .inr n
  | value => return .inl (← plainNumber value)

def toInteger (m : Machine) (value : Value) : Run Int := do
  match ← toPlain m .number value with
  | .integer n => return n
  | .truth b => return if b then 1 else 0
  | .text text =>
    match textInteger? text with
    | some n => return n
    | none => fail .grammar "cannot convert string to bigint primitive"
  | _ => failType "cannot convert value to bigint"

def toKey (m : Machine) (value : Value) : Run Key := do
  match ← toPlain m .text value with
  | .symbol id => return .symbol id
  | value => return .ofUnits (← plainText value)

/-- The whole part of a number; NaN is zero, and infinities are kept. -/
def wholeOf (n : Double) : Double :=
  if n.isNaN then .zero false else n.truncate

/-- More than any length. -/
def lengthLimit : Nat := Nat.pow 2 53 - 1

/-- A length, at most the greatest there is. -/
def toLength (m : Machine) (value : Value) : Run Nat := do
  match wholeOf (← toNumber m value) with
  | .infinity false => return lengthLimit
  | n => return min n.toInt.toNat lengthLimit

/-- A whole number with a bound on both sides, which stands for infinity too. -/
def toWhole (m : Machine) (value : Value) : Run Int := do
  match wholeOf (← toNumber m value) with
  | .infinity negative => return if negative then -(Nat.pow 2 64) else Nat.pow 2 64
  | n => return n.toInt

/-- A place counted from the start, or from the end if it is negative. -/
def toPlace (m : Machine) (value : Value) (length : Nat) (missing : Nat) : Run Nat := do
  match value with
  | .undefined => return missing
  | value =>
    let n ← toWhole m value
    return if n < 0 then (n + length).toNat else min n.toNat length

def lengthOf (m : Machine) (id : Nat) : Run Nat := do
  match (← object id).kind with
  | .list length _ => return length
  | _ => toLength m (← Member.get m id Object.lengthKey)

def isList (value : Value) : Run Bool :=
  go Member.reach value
where
  go : Nat → Value → Run Bool
    | 0, _ => return false
    | fuel + 1, value => do
      match value with
      | .object id =>
        match (← object id).kind with
        | .list _ _ => return true
        | .proxy target _ _ _ =>
          match target with
          | some target => go fuel (.object target)
          | none => failType "proxy target is null"
        | _ => return false
      | _ => return false

/-- The items of an object that has a length. -/
def itemsOf (m : Machine) (value : Value) : Run (List Value) := do
  match value with
  | .object id =>
    let length ← lengthOf m id
    (List.range length).mapM fun i => Member.get m id (.ofNat i)
  | _ => failType "cannot create list from non-object"

def isConstructor (value : Value) : Run Bool :=
  match value with
  | .object id => do
    match (← object id).kind with
    | .closure closure =>
      let info := closure.routine.info
      return (info.form == .plain && !info.isAsync && !info.isGenerator) || closure.isClass
    | .native _ post _ => return post == .maker
    | .bound target _ _ =>
      match (← object target).kind with
      | .closure closure => return closure.routine.info.form == .plain || closure.isClass
      | .native _ post _ => return post == .maker
      | _ => return false
    | .proxy _ _ _ makes => return makes
    | _ => return false
  | _ => return false

end Coerce

end FootprintTemplate.Script
