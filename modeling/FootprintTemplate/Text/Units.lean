/-! Text as a sequence of units of 16 bits. A character beyond the first plane is a pair of
surrogates; a surrogate may also stand alone. -/
namespace FootprintTemplate.Text

abbrev Units := List UInt16

/-- The units of a code point. -/
def unitsOfPoint (n : Nat) : Units :=
  if n < 0x10000 then [n.toUInt16]
  else [(0xD800 + (n - 0x10000) / 0x400).toUInt16, (0xDC00 + n % 0x400).toUInt16]

def unitsOfChars (chars : List Char) : Units :=
  chars.flatMap fun c => unitsOfPoint c.toNat

def units (text : String) : Units :=
  unitsOfChars text.toList

def isHighSurrogate (u : UInt16) : Bool :=
  0xD800 ≤ u && u < 0xDC00

def isLowSurrogate (u : UInt16) : Bool :=
  0xDC00 ≤ u && u < 0xE000

def pairedPoint (high low : UInt16) : Nat :=
  0x10000 + (high.toNat - 0xD800) * 0x400 + (low.toNat - 0xDC00)

/-- The code points. A surrogate that stands alone is one of them. -/
def points : Units → List Nat
  | [] => []
  | high :: low :: rest =>
    if isHighSurrogate high && isLowSurrogate low then pairedPoint high low :: points rest
    else high.toNat :: points (low :: rest)
  | [u] => [u.toNat]

def isLonePoint (n : Nat) : Bool :=
  0xD800 ≤ n && n < 0xE000

/-- The text, if no surrogate stands alone. -/
def ofUnits? (text : Units) : Option String :=
  let all := points text
  if all.any isLonePoint then none else some (String.ofList (all.map Char.ofNat))

/-- The text with U+FFFD in the place of surrogates that stand alone. -/
def ofUnits (text : Units) : String :=
  String.ofList ((points text).map fun n => if isLonePoint n then '\ufffd' else Char.ofNat n)

def unitOfChar (c : Char) : UInt16 :=
  c.toNat.toUInt16

/-- Compares unit by unit. -/
def isBelow : Units → Units → Bool
  | [], [] => false
  | [], _ :: _ => true
  | _ :: _, [] => false
  | a :: as, b :: bs => if a == b then isBelow as bs else a < b

/-- The first text opens the second one. -/
def opens : Units → Units → Bool
  | [], _ => true
  | _ :: _, [] => false
  | a :: as, b :: bs => a == b && opens as bs

/-- The place of the first occurrence at or after the start of the text. -/
def placeOf? (needle : Units) : Units → Option Nat
  | [] => if needle.isEmpty then some 0 else none
  | u :: rest =>
    if opens needle (u :: rest) then some 0 else (placeOf? needle rest).map (· + 1)

end FootprintTemplate.Text
