import FootprintTemplate.Script.Library.Numbers

/-! Routines that have a name of their own in every script. -/
namespace FootprintTemplate.Script.Library.Globals

open Run
open Text (Units units)

/-- Runs a text as a script of its own. -/
def eval (call : Call) : Run Value :=
  match call.argument 0 with
  | .text text => Evaluate.runText call.machine scriptScope {} text
  | value => return value

def test (holds : Number.Double → Bool) (call : Call) : Run Value := do
  return .truth (holds (← call.number 0))

def isPlain (reserved : String) (n : Nat) : Bool :=
  n < 128 && ((Char.ofNat n).isAlphanum || ("-_.!~*'()" ++ reserved).toList.contains (Char.ofNat n))

def addressMarks : String := ";/?:@&=+$,#"

def hexDigit (n : Nat) : Char :=
  (Number.digitChar n).toUpper

/-- A byte as a percent sign with two digits. -/
def percent (byte : UInt8) : List Char :=
  ['%', hexDigit (byte.toNat / 16), hexDigit (byte.toNat % 16)]

/-- Writes all characters but plain ones by their bytes. -/
def encode (reserved : String) (call : Call) : Run Value := do
  let points := Text.points (← call.text 0)
  if points.any Text.isLonePoint then fail .address "trying to encode an invalid string"
  return Numbers.charsValue <| points.flatMap fun n =>
    let c := Char.ofNat n
    if isPlain reserved n then [c] else (String.singleton c).toUTF8.toList.flatMap percent

/-- The byte that a percent sign and two digits give. -/
def byte? : Units → Option (UInt8 × Units)
  | 37 :: a :: b :: rest =>
    let a := Char.ofNat a.toNat
    let b := Char.ofNat b.toNat
    if isHexDigit a && isHexDigit b then some ((valueIn 16 [a, b]).toUInt8, rest) else none
  | _ => none

/-- So many further bytes. -/
def bytes? : Nat → Units → Option (List UInt8 × Units)
  | 0, rest => some ([], rest)
  | count + 1, rest => do
    let (first, rest) ← byte? rest
    let (more, rest) ← bytes? count rest
    return (first :: more, rest)

/-- How many bytes follow the first one of a character. -/
def further? (first : UInt8) : Option Nat :=
  if first < 0x80 then some 0
  else if first < 0xC0 then none
  else if first < 0xE0 then some 1
  else if first < 0xF0 then some 2
  else if first < 0xF8 then some 3
  else none

/-- Reads the character that bytes with percent signs spell, and how it was written. -/
def character? (text : Units) : Option (String × Units × Units) := do
  let (first, rest) ← byte? text
  let (more, rest) ← bytes? (← further? first) rest
  let own ← String.fromUTF8? (ByteArray.mk (first :: more).toArray)
  return (own, text.take (text.length - rest.length), rest)

/-- Reads characters that are written by their bytes. Those that are reserved stay. -/
def decodeUnits (reserved : String) : Nat → Units → Option Units
  | 0, _ => some []
  | _, [] => some []
  | fuel + 1, unit :: rest => do
    if unit == 37 then
      let (own, written, rest) ← character? (unit :: rest)
      let kept := own.toList.all reserved.toList.contains
      return (if kept then written else units own) ++ (← decodeUnits reserved fuel rest)
    else return unit :: (← decodeUnits reserved fuel rest)

def decode (reserved : String) (call : Call) : Run Value := do
  let text ← call.text 0
  match decodeUnits reserved (text.length + 1) text with
  | some text => return .text text
  | none => fail .address "invalid escape sequence"

def family : Family where
  name := ""
  owner := some .global
  isGlobal := false
  constants := [("globalThis", .object Origin.global.id), ("Infinity", .number (.infinity false)),
    ("NaN", .number .nan), ("undefined", .undefined)]
  own := [⟨"eval", 1, eval⟩, ⟨"isFinite", 1, test Number.Double.isFinite⟩,
    ⟨"isNaN", 1, test Number.Double.isNaN⟩,
    ⟨"decodeURI", 1, decode addressMarks⟩, ⟨"decodeURIComponent", 1, decode ""⟩,
    ⟨"encodeURI", 1, encode addressMarks⟩, ⟨"encodeURIComponent", 1, encode ""⟩] ++
    Numbers.parsers

end FootprintTemplate.Script.Library.Globals
