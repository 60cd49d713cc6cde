import FootprintTemplate.Number.Places
import FootprintTemplate.Script.Library.Native

/-! Numbers, integers of any size, truth values and symbols. -/
namespace FootprintTemplate.Script.Library

open Number (Double)
open Run
open Text (Units units)

namespace Numbers

def maker (call : Call) : Run Value := do
  let value ← match call.arguments with
    | [] => pure (.zero false)
    | value :: _ =>
      match ← Coerce.toNumeric call.machine value with
      | .inl n => pure n
      | .inr n => pure (.ofInt n)
  match call.newTarget with
  | none => return .number value
  | some _ => call.make .number (.wrapped (.number value))

/-- The number that `this` is or wraps. -/
def own (call : Call) : Run Double := do
  match call.this with
  | .number n => return n
  | .object id =>
    match (← object id).kind with
    | .wrapped (.number n) => return n
    | _ => failType "'this' is not a number"
  | _ => failType "'this' is not a number"

def charsValue (chars : List Char) : Value :=
  .text (Text.unitsOfChars chars)

/-- A count of digits within bounds, and if it was given. -/
def count (call : Call) (least : Nat) : Run Nat := do
  let n ← call.whole 0
  if n < least || n > 100 then fail .range "number of digits must be between bounds"
  return n.toNat

def isHuge (n : Double) : Bool :=
  (Double.ofNat (Nat.pow 10 21)).compare? n.abs != some .gt

def toFixed (call : Call) : Run Value := do
  let n ← own call
  let places ← count call 0
  return if isHuge n then .text (numberText n) else charsValue (Number.fixedChars places n)

def toExponential (call : Call) : Run Value := do
  let n ← own call
  if call.argument 0 == .undefined then
    let _ ← call.whole 0
    return if n.isFinite then charsValue (Number.shortestExponentChars n)
      else .text (numberText n)
  else
    let places ← call.whole 0
    if !n.isFinite then return .text (numberText n)
    if places < 0 || places > 100 then fail .range "number of digits must be between bounds"
    return charsValue (Number.exponentChars places.toNat n)

def toPrecision (call : Call) : Run Value := do
  let n ← own call
  if call.argument 0 == .undefined then return .text (numberText n)
  let digits ← call.whole 0
  if !n.isFinite then return .text (numberText n)
  if digits < 1 || digits > 100 then fail .range "precision must be between bounds"
  return charsValue (Number.precisionChars digits.toNat n)

/-- The base that an argument asks for. -/
def base (call : Call) : Run Nat := do
  match call.argument 0 with
  | .undefined => return 10
  | _ =>
    let base ← call.whole 0
    if base < 2 || base > 36 then
      fail .range "radix must be an integer at least 2 and no greater than 36"
    return base.toNat

def toText (call : Call) : Run Value := do
  let n ← own call
  let base ← base call
  return if base == 10 || !n.isFinite then .text (numberText n)
    else charsValue (Number.baseChars base n)

def isSafe (n : Double) : Bool :=
  n.isWhole && n.toInt.natAbs < Nat.pow 2 53

/-- A test of a number; what is none fails it. -/
def test (holds : Double → Bool) (call : Call) : Run Value :=
  match call.argument 0 with
  | .number n => return .truth (holds n)
  | _ => return .truth false

/-- The longest start of a text that spells a number. -/
def readStart (text : Units) : Double :=
  let chars := (Text.ofUnits (trimStart text)).toList
  let (sign, rest) := Number.takeSign chars
  let negative := sign == some '-'
  if "Infinity".toList.isPrefixOf rest then .infinity negative
  else
    let whole := rest.takeWhile Number.isAsciiDigit
    let rest := rest.drop whole.length
    let fraction := match rest with
      | '.' :: rest => rest.takeWhile Number.isAsciiDigit
      | _ => []
    if whole.isEmpty && fraction.isEmpty then .nan
    else
      let rest := match rest with
        | '.' :: rest => rest.drop fraction.length
        | rest => rest
      let exponent : Int := match rest with
        | e :: rest =>
          if e == 'e' || e == 'E' then
            let (sign, digits) := Number.takeSign rest
            let n : Int := Number.naturalOf (digits.takeWhile Number.isAsciiDigit)
            if sign == some '-' then -n else n
          else 0
        | [] => 0
      .ofDecimal negative (Number.naturalOf (whole ++ fraction)) (exponent - fraction.length)

def parseFloat (call : Call) : Run Value := do
  return .number (readStart (← call.text 0))

/-- The digits of a base at the start of a text as a number. -/
def readBase (text : Units) (base : Nat) (mayHaveSign : Bool) : Double :=
  let (sign, rest) := Number.takeSign (Text.ofUnits (trimStart text)).toList
  let (base, rest) := match rest with
    | '0' :: x :: rest =>
      if mayHaveSign && (x == 'x' || x == 'X') then (16, rest) else (base, '0' :: x :: rest)
    | rest => (base, rest)
  let digits := rest.takeWhile fun c => (digitIn? base c).isSome
  if digits.isEmpty then .nan
  else .ofDecimal (sign == some '-') (valueIn base digits) 0

def parseInt (call : Call) : Run Value := do
  let text ← call.text 0
  let base := (← call.number 1).toInt32
  if base == 0 then return .number (readBase text 10 true)
  else if base < 2 || base > 36 then return .number .nan
  else return .number (readBase text base.toNat (base == 16))

def parsers : List Native :=
  [⟨"parseFloat", 1, parseFloat⟩, ⟨"parseInt", 2, parseInt⟩]

def family : Family where
  name := "Number"
  maker := some ⟨"Number", 1, maker⟩
  base := some .number
  constants := [("EPSILON", .number (.ofRatio false 1 (Nat.pow 2 52))),
    ("MAX_SAFE_INTEGER", .ofNat (Nat.pow 2 53 - 1)),
    ("MIN_SAFE_INTEGER", .number (.ofInt (1 - Nat.pow 2 53))),
    ("MAX_VALUE", .number (.ofShifted false (Nat.pow 2 53 - 1) 971)),
    ("MIN_VALUE", .number (.ofShifted false 1 (-1074))),
    ("NEGATIVE_INFINITY", .number (.infinity true)),
    ("POSITIVE_INFINITY", .number (.infinity false)), ("NaN", .number .nan)]
  own := [⟨"isFinite", 1, test Double.isFinite⟩, ⟨"isInteger", 1, test Double.isWhole⟩,
    ⟨"isNaN", 1, test Double.isNaN⟩, ⟨"isSafeInteger", 1, test isSafe⟩] ++ parsers
  shared := [⟨"toExponential", 1, toExponential⟩, ⟨"toFixed", 1, toFixed⟩,
    ⟨"toLocaleString", 0, fun call => do return .text (numberText (← own call))⟩,
    ⟨"toPrecision", 1, toPrecision⟩, ⟨"toString", 1, toText⟩,
    ⟨"valueOf", 0, fun call => do return .number (← own call)⟩]

end Numbers

namespace Truths

def own (call : Call) : Run Bool := do
  match call.this with
  | .truth value => return value
  | .object id =>
    match (← object id).kind with
    | .wrapped (.truth value) => return value
    | _ => failType "'this' is not a boolean"
  | _ => failType "'this' is not a boolean"

def maker (call : Call) : Run Value :=
  let value := Coerce.isTrue (call.argument 0)
  match call.newTarget with
  | none => return .truth value
  | some _ => call.make .truth (.wrapped (.truth value))

def family : Family where
  name := "Boolean"
  maker := some ⟨"Boolean", 1, maker⟩
  base := some .truth
  shared := [
    ⟨"toString", 0, fun call => do return .ofString (if ← own call then "true" else "false")⟩,
    ⟨"valueOf", 0, fun call => do return .truth (← own call)⟩]

end Truths

namespace Integers

def own (call : Call) : Run Int := do
  match call.this with
  | .integer n => return n
  | .object id =>
    match (← object id).kind with
    | .wrapped (.integer n) => return n
    | _ => failType "'this' is not a BigInt"
  | _ => failType "'this' is not a BigInt"

def maker (call : Call) : Run Value := do
  if call.newTarget.isSome then failType "BigInt is not a constructor"
  match ← Coerce.toPlain call.machine .number (call.argument 0) with
  | .number n =>
    if n.isWhole then return .integer n.toInt
    else fail .range "cannot convert number to a BigInt"
  | value => return .integer (← Coerce.toInteger call.machine value)

/-- A count of bits. -/
def bits (call : Call) : Run Nat := do
  let n ← call.whole 0
  if n < 0 || n > Coerce.lengthLimit then fail .range "Invalid value: must be between bounds"
  return n.toNat

def wrapped (isSigned : Bool) (call : Call) : Run Value := do
  let bits ← bits call
  let n ← Coerce.toInteger call.machine (call.argument 1)
  if bits > 1000000 then return .integer n
  let rest := n % Nat.pow 2 bits
  return .integer <|
    if isSigned && bits > 0 && rest ≥ Nat.pow 2 (bits - 1) then rest - Nat.pow 2 bits else rest

def toText (call : Call) : Run Value := do
  let n ← own call
  let base ← Numbers.base call
  let digits := Number.naturalDigits base n.natAbs
  return Numbers.charsValue (if n < 0 then '-' :: digits else digits)

def family : Family where
  name := "BigInt"
  maker := some ⟨"BigInt", 1, maker⟩
  base := some .integer
  own := [⟨"asIntN", 2, wrapped true⟩, ⟨"asUintN", 2, wrapped false⟩]
  shared := [
    ⟨"toLocaleString", 0, fun call => do return .ofString (toString (← own call))⟩,
    ⟨"toString", 0, toText⟩,
    ⟨"valueOf", 0, fun call => do return .integer (← own call)⟩]
  tag := some "BigInt"

end Integers

namespace Symbols

def make (description : Option Units) : Run Nat := do
  let id := (← MonadState.get).symbols.size
  modify fun store => { store with symbols := store.symbols.push description }
  return id

def maker (call : Call) : Run Value := do
  if call.newTarget.isSome then failType "Symbol is not a constructor"
  match call.argument 0 with
  | .undefined => return .symbol (← make none)
  | _ => return .symbol (← make (some (← call.text 0)))

def own (call : Call) : Run Nat := do
  match call.this with
  | .symbol id => return id
  | .object object =>
    match (← Run.object object).kind with
    | .wrapped (.symbol id) => return id
    | _ => failType "'this' is not a Symbol"
  | _ => failType "'this' is not a Symbol"

def description (id : Nat) : Run (Option Units) := do
  return ((← MonadState.get).symbols[id]?).join

/-- The symbol that is known by a text. -/
def named (call : Call) : Run Value := do
  let text ← call.text 0
  match (← MonadState.get).registry.lookup text with
  | some id => return .symbol id
  | none =>
    let id ← make (some text)
    modify fun store => { store with registry := (text, id) :: store.registry }
    return .symbol id

def nameOf (call : Call) : Run Value := do
  match call.argument 0 with
  | .symbol id =>
    match (← MonadState.get).registry.find? (·.2 == id) with
    | some (text, _) => return .text text
    | none => return .undefined
  | _ => failType "Symbol.keyFor: sym is not a symbol"

def toText (call : Call) : Run Value := do
  let text := (← description (← own call)).getD []
  return .text (units "Symbol(" ++ text ++ units ")")

def family : Family where
  name := "Symbol"
  maker := some ⟨"Symbol", 0, maker⟩
  base := some .symbol
  constants := Sign.all.map fun (name, sign) => (name, .symbol sign.id)
  own := [⟨"for", 1, named⟩, ⟨"keyFor", 1, nameOf⟩]
  shared := [⟨"toString", 0, toText⟩,
    ⟨"valueOf", 0, fun call => do return .symbol (← own call)⟩,
    ⟨"@@toPrimitive", 1, fun call => do return .symbol (← own call)⟩]
  computed := [⟨"description", 0, fun call => do
    match ← description (← own call) with
    | some text => return .text text
    | none => return .undefined⟩]
  tag := some "Symbol"

end Symbols

end FootprintTemplate.Script.Library
