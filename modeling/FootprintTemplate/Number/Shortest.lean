import FootprintTemplate.Number.Double

/-! Decimal text of a number with the fewest digits that read back as it. Among decimals of that
many digits the nearest is taken. -/
namespace FootprintTemplate.Number

/-- How a kind of output spells numbers. -/
structure Style where
  /-- Written without an exponent, given the place of the point before the first digit. -/
  positional : Int → Bool
  /-- Of two nearest decimals the even one is taken, otherwise the larger. -/
  tieToEven : Bool
  infinity : String

/-- `count * 10 ^ unit`. -/
structure Decimal where
  count : Nat
  unit : Int
deriving DecidableEq, Repr

namespace Shortest

/-- A finite number and the decimals that read back as it, all in units of `num / den`. -/
structure Window where
  low : Nat
  value : Nat
  high : Nat
  closed : Bool
  num : Nat
  den : Nat

/-- Up to half way to either neighbour. The lower one is nearer where the exponent changes. -/
def window (m : Nat) (e : Int) : Window :=
  let low := if m == Nat.pow 2 52 && e != Double.minExponent then 4 * m - 1 else 4 * m - 2
  let unit := Double.shifted 1 (e - 2)
  ⟨low, 4 * m, 4 * m + 2, m % 2 == 0, unit.1, unit.2⟩

/-- The place of the point before the first digit of the decimal form. -/
def place (w : Window) : Int :=
  let num := w.value * w.num
  let guess : Int := ((num.log2 : Int) - w.den.log2) * 30103 / 100000
  ([guess - 1, guess, guess + 1].find? fun p =>
    num * Nat.pow 10 (-p).toNat < w.den * Nat.pow 10 p.toNat).getD (guess + 2)

/-- The decimal of a given unit that is nearest to the number, if one reads back as it. -/
def nearest? (tieToEven : Bool) (w : Window) (unit : Int) : Option Decimal :=
  let scale := w.den * Nat.pow 10 unit.toNat
  let units := w.num * Nat.pow 10 (-unit).toNat
  let value := w.value * units
  let inside (count : Nat) : Bool :=
    if w.closed then w.low * units ≤ count * scale && count * scale ≤ w.high * units
    else w.low * units < count * scale && count * scale < w.high * units
  let below := value / scale
  let above := below + 1
  let twice := 2 * (value % scale)
  let up := scale < twice || (twice == scale && (!tieToEven || below % 2 == 1))
  if inside below && inside above then some ⟨if up then above else below, unit⟩
  else if inside below then some ⟨below, unit⟩
  else if inside above then some ⟨above, unit⟩
  else none

/-- The decimal with the fewest digits, at most seventeen. -/
def decimal (tieToEven : Bool) (m : Nat) (e : Int) : Decimal :=
  let w := window m e
  let p := place w
  ((List.range' 1 17).findSome? fun (n : Nat) => nearest? tieToEven w (p - n)).getD ⟨0, 0⟩

end Shortest

/-- Digits without the zeros at the end, and the place of the point before the first of them. -/
def Decimal.digits (d : Decimal) : List Char × Int :=
  let all := Nat.toDigits 10 d.count
  ((all.reverse.dropWhile (· == '0')).reverse, d.unit + all.length)

def zeros (n : Nat) : List Char :=
  List.replicate n '0'

/-- Digits with a point at its place and no exponent. -/
def withPoint (digits : List Char) (place : Int) : List Char :=
  if place ≤ 0 then '0' :: '.' :: (zeros (-place).toNat ++ digits)
  else if digits.length ≤ place.toNat then digits ++ zeros (place.toNat - digits.length)
  else digits.take place.toNat ++ '.' :: digits.drop place.toNat

/-- One digit, the others after a point, and the exponent with its sign. -/
def withExponent (digits : List Char) (place : Int) : List Char :=
  let exponent := place - 1
  digits.take 1 ++ (if digits.length ≤ 1 then [] else '.' :: digits.drop 1) ++
    'e' :: (if exponent < 0 then '-' else '+') :: Nat.toDigits 10 exponent.natAbs

/-- The text of a number in a style. Zero has no sign. -/
def Style.chars (style : Style) : Double → List Char
  | .nan => "NaN".toList
  | .infinity negative => (if negative then ['-'] else []) ++ style.infinity.toList
  | .finite negative m e =>
    if m == 0 then ['0']
    else
      let (digits, place) := (Shortest.decimal style.tieToEven m e).digits
      (if negative then ['-'] else []) ++
        (if style.positional place then withPoint digits place else withExponent digits place)

/-- Numbers as a script prints them: with an exponent from 1e21 on and below 1e-6. -/
def scriptStyle : Style where
  positional place := -6 < place && place ≤ 21
  tieToEven := true
  infinity := "Infinity"

/-- Numbers of a placement: never with an exponent. -/
def placementStyle : Style where
  positional _ := true
  tieToEven := false
  infinity := "inf"

end FootprintTemplate.Number
