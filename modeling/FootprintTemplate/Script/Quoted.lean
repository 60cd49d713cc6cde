import FootprintTemplate.Number.Read
import FootprintTemplate.Text.Units

/-! Escapes, and the texts between quotes of a script. -/
namespace FootprintTemplate.Script

open Text (Units units unitsOfPoint)

/-- Ends a line of a script, and with it a comment. -/
def isLineEnd (c : Char) : Bool :=
  c == '\n' || c == '\r' || c == '\u2028' || c == '\u2029'

def digitIn? (base : Nat) (c : Char) : Option Nat :=
  let n := c.toNat
  let value :=
    if c.isDigit then n - '0'.toNat
    else if 'a' ≤ c && c ≤ 'z' then n - 'a'.toNat + 10
    else if 'A' ≤ c && c ≤ 'Z' then n - 'A'.toNat + 10
    else base
  if value < base then some value else none

def valueIn (base : Nat) (digits : List Char) : Nat :=
  digits.foldl (fun n c => base * n + (digitIn? base c).getD 0) 0

def isHexDigit (c : Char) : Bool :=
  (digitIn? 16 c).isSome

/-- A code point in hexadecimal: digits in braces, or just four. -/
def readPoint? : List Char → Option (Nat × List Char)
  | '\x7b' :: rest =>
    let digits := rest.takeWhile isHexDigit
    match rest.dropWhile isHexDigit with
    | '\x7d' :: rest =>
      let n := valueIn 16 digits
      if digits.isEmpty || n > 0x10ffff then none else some (n, rest)
    | _ => none
  | a :: b :: c :: d :: rest =>
    let digits := [a, b, c, d]
    if digits.all isHexDigit then some (valueIn 16 digits, rest) else none
  | _ => none

/-- What an escape stands for, and the text after it. -/
structure Escape where
  value : Units
  /-- Written with octal digits, or with a digit that needs no escape. -/
  octal : Bool
  rest : List Char

def isOctalDigit (c : Char) : Bool :=
  (digitIn? 8 c).isSome

/-- One to three octal digits below four hundred. -/
def readOctal (first : Char) (rest : List Char) : Escape :=
  let more := (rest.take (if first ≤ '3' then 2 else 1)).takeWhile isOctalDigit
  ⟨unitsOfPoint (valueIn 8 (first :: more)), !(first == '0' && more.isEmpty &&
    !rest.head?.any Char.isDigit), rest.drop more.length⟩

def namedEscape? : Char → Option Nat
  | 'n' => some 10
  | 't' => some 9
  | 'r' => some 13
  | 'b' => some 8
  | 'v' => some 11
  | 'f' => some 12
  | _ => none

/-- Reads what follows a backslash. -/
def readEscape? : List Char → Option Escape
  | [] => none
  | '\r' :: '\n' :: rest => some ⟨[], false, rest⟩
  | 'x' :: a :: b :: rest =>
    if isHexDigit a && isHexDigit b then some ⟨unitsOfPoint (valueIn 16 [a, b]), false, rest⟩
    else none
  | 'u' :: rest => (readPoint? rest).map fun (n, rest) => ⟨unitsOfPoint n, false, rest⟩
  | c :: rest =>
    if c == 'x' then none
    else if isLineEnd c then some ⟨[], false, rest⟩
    else if isOctalDigit c then some (readOctal c rest)
    else match namedEscape? c with
      | some n => some ⟨unitsOfPoint n, false, rest⟩
      | none => some ⟨unitsOfPoint c.toNat, c.isDigit, rest⟩

/-- The text of a literal between quotes. -/
structure Quoted where
  value : Units
  /-- It holds no escapes. -/
  exact : Bool
  octal : Bool
  rest : List Char

/-- Reads up to the closing quote. Line feeds and carriage returns stand in it only escaped. -/
def readQuoted? (quote : Char) : Nat → List Char → Option Quoted
  | 0, _ | _, [] => none
  | fuel + 1, c :: rest =>
    if c == quote then some ⟨[], true, false, rest⟩
    else if c == '\n' || c == '\r' then none
    else if c == '\\' then
      match readEscape? rest with
      | none => none
      | some escape =>
        (readQuoted? quote fuel escape.rest).map fun text =>
          ⟨escape.value ++ text.value, false, escape.octal || text.octal, text.rest⟩
    else
      (readQuoted? quote fuel rest).map fun text =>
        { text with value := unitsOfPoint c.toNat ++ text.value }

/-- A stretch of a template up to a substitution or its end. -/
structure Stretch where
  /-- The text it stands for, unless an escape in it is malformed. -/
  value : Option Units
  /-- The text as it is written. -/
  written : Units
  /-- No substitution follows. -/
  final : Bool
  rest : List Char

namespace Stretch

/-- Puts text before a stretch. -/
def after (value : Option Units) (written : Units) (stretch : Stretch) : Stretch :=
  { stretch with
    value := match value, stretch.value with
      | some first, some rest => some (first ++ rest)
      | _, _ => none
    written := written ++ stretch.written }

end Stretch

/-- The escape as it is written; line ends are line feeds. -/
def writtenEscape : List Char → List Char → Units
  | '\r' :: _, _ => units "\\\n"
  | from', rest => units "\\" ++ Text.unitsOfChars (from'.take (from'.length - rest.length))

/-- Reads a stretch of a template. An octal escape is malformed. -/
def readStretch? : Nat → List Char → Option Stretch
  | 0, _ | _, [] => none
  | fuel + 1, c :: rest =>
    if c == '\x60' then some ⟨some [], [], true, rest⟩
    else if c == '$' && rest.head? == some '\x7b' then some ⟨some [], [], false, rest.drop 1⟩
    else if c == '\r' then
      let rest := if rest.head? == some '\n' then rest.drop 1 else rest
      (readStretch? fuel rest).map (.after (some [10]) [10])
    else if c == '\\' then
      match (readEscape? rest).filter (!·.octal), rest with
      | some escape, _ =>
        (readStretch? fuel escape.rest).map
          (.after (some escape.value) (writtenEscape rest escape.rest))
      | none, d :: rest =>
        (readStretch? fuel rest).map (.after none (Text.unitsOfChars ['\\', d]))
      | none, [] => none
    else
      let unit := unitsOfPoint c.toNat
      (readStretch? fuel rest).map (.after (some unit) unit)

end FootprintTemplate.Script
