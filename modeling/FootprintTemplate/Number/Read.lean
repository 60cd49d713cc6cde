import FootprintTemplate.Number.Double
import FootprintTemplate.Number.Literal

/-! Values of decimal texts: of the literals of a footprint, and of the numbers a placement or a
command line gives. -/
namespace FootprintTemplate.Number

def digitValue (c : Char) : Nat :=
  c.toNat - '0'.toNat

def naturalOf (digits : List Char) : Nat :=
  digits.foldl (fun n c => 10 * n + digitValue c) 0

def Exponent.value (exponent : Exponent) : Int :=
  if exponent.sign == some '-' then -(naturalOf exponent.digits) else naturalOf exponent.digits

/-- The number nearest to a literal whose digits are ASCII, apart from its sign. -/
def Literal.magnitude (literal : Literal) : Double :=
  let fraction := literal.fraction.getD []
  let exponent := (literal.exponent.map Exponent.value).getD 0
  .ofDecimal false (naturalOf (literal.whole ++ fraction)) (exponent - fraction.length)

/-- The value of signs before a literal. -/
def valueOf (chars : List Char) : Double :=
  match chars with
  | '-' :: rest => (valueOf rest).negate
  | '+' :: rest => valueOf rest
  | unsigned => ((Literal.read? unsigned).map Literal.magnitude).getD .nan

def isAsciiDigit (c : Char) : Bool :=
  '0' ≤ c && c ≤ '9'

def lowerAscii (chars : List Char) : List Char :=
  chars.map Char.toLower

/-- Reads digits around an optional point, with at least one digit, and an optional exponent. -/
def readDecimal? (negative : Bool) (chars : List Char) : Option Double :=
  let whole := chars.takeWhile isAsciiDigit
  let rest := chars.dropWhile isAsciiDigit
  let fraction := match rest with
    | '.' :: rest => (rest.takeWhile isAsciiDigit, rest.dropWhile isAsciiDigit)
    | rest => ([], rest)
  if whole.isEmpty && fraction.1.isEmpty then none
  else
    let value (exponent : Int) : Double :=
      .ofDecimal negative (naturalOf (whole ++ fraction.1)) (exponent - fraction.1.length)
    match fraction.2 with
    | [] => some (value 0)
    | mark :: rest =>
      let signed := takeSign rest
      if (mark == 'e' || mark == 'E') && !signed.2.isEmpty && signed.2.all isAsciiDigit then
        some (value (Exponent.value ⟨mark, signed.1, signed.2⟩))
      else none

/-- Reads a number as a command line gives it; infinity and NaN may be spelt out in any case. -/
def readDouble? (text : String) : Option Double :=
  let signed := takeSign text.toList
  let negative := signed.1 == some '-'
  let word := String.ofList (lowerAscii signed.2)
  if word == "inf" || word == "infinity" then some (.infinity negative)
  else if word == "nan" then some .nan
  else readDecimal? negative signed.2

end FootprintTemplate.Number
