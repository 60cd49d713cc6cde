import FootprintTemplate.Text.DecimalDigit

/-! Number literals of a footprint, as their parts. A literal is a sign, digits around a point and
an exponent; digits may be of any script, a leading zero stands alone. -/
namespace FootprintTemplate.Number

structure Exponent where
  mark : Char
  sign : Option Char
  digits : List Char
deriving DecidableEq, Repr

/-- The parts of a literal. A missing `fraction` has no point either. -/
structure Literal where
  sign : Option Char
  whole : List Char
  fraction : Option (List Char)
  exponent : Option Exponent
deriving DecidableEq, Repr

def isDigit (c : Char) : Bool :=
  Text.isDecimalDigit c

def takeSign : List Char → Option Char × List Char
  | '+' :: rest => (some '+', rest)
  | '-' :: rest => (some '-', rest)
  | chars => (none, chars)

/-- Digits up to the point: a zero alone, or digits that start with an ASCII one to nine. -/
def takeWhole : List Char → List Char × List Char
  | '0' :: rest => (['0'], rest)
  | c :: rest =>
    if '1' ≤ c && c ≤ '9' then (c :: rest.takeWhile isDigit, rest.dropWhile isDigit)
    else ([], c :: rest)
  | [] => ([], [])

def takeFraction : List Char → Option (List Char) × List Char
  | '.' :: rest => (some (rest.takeWhile isDigit), rest.dropWhile isDigit)
  | chars => (none, chars)

def readExponent? : List Char → Option (Option Exponent)
  | [] => some none
  | mark :: rest =>
    let signed := takeSign rest
    if (mark == 'e' || mark == 'E') && !signed.2.isEmpty && signed.2.all isDigit then
      some (some ⟨mark, signed.1, signed.2⟩)
    else none

/-- The parts of a text that is one number literal. Without digits before the point there must be
some after it. -/
def Literal.read? (chars : List Char) : Option Literal :=
  let signed := takeSign chars
  let whole := takeWhole signed.2
  let fraction := takeFraction whole.2
  if whole.1.isEmpty && (fraction.1.getD []).isEmpty then none
  else (readExponent? fraction.2).map (⟨signed.1, whole.1, fraction.1, ·⟩)

def isNumber (text : String) : Bool :=
  (Literal.read? text.toList).isSome

/-- Zero in its plain spellings: `0`, `-0`, and these with a point and zeros. -/
def isPlainZero (text : String) : Bool :=
  match text.toList with
  | '-' :: rest => unsigned rest
  | chars => unsigned chars
where
  unsigned : List Char → Bool
    | ['0'] => true
    | '0' :: '.' :: zeros => !zeros.isEmpty && zeros.all (· == '0')
    | _ => false

/-- The coordinate on the other face: a leading minus is dropped, otherwise one is added. -/
def mirrorChars : List Char → List Char
  | '-' :: rest => rest
  | chars => '-' :: chars

def mirror (text : String) : String :=
  String.ofList (mirrorChars text.toList)

end FootprintTemplate.Number
