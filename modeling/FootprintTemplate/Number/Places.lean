import FootprintTemplate.Number.Arithmetic
import FootprintTemplate.Number.Shortest

/-! Texts of a number with a given count of digits, or in another base than ten. -/
namespace FootprintTemplate.Number

/-- A quotient rounded to the nearest natural number, a tie to the larger one. -/
def roundUp (num den : Nat) : Nat :=
  (2 * num + den) / (2 * den)

/-- The magnitude of a finite number as a quotient. -/
def ratioOf : Double → Nat × Nat
  | .finite _ m e => Double.shifted m e
  | _ => (0, 1)

/-- A quotient times a power of ten. -/
def scaled (ratio : Nat × Nat) (power : Int) : Nat × Nat :=
  (ratio.1 * Nat.pow 10 power.toNat, ratio.2 * Nat.pow 10 (-power).toNat)

def signChars (n : Double) : List Char :=
  if n.isNegative && !n.isZero then ['-'] else []

/-- Digits before a point and as many places as asked for after it. -/
def pointed (digits : List Char) (places : Nat) : List Char :=
  let digits := zeros (places + 1 - digits.length) ++ digits
  let whole := digits.take (digits.length - places)
  if places == 0 then whole else whole ++ '.' :: digits.drop whole.length

/-- A finite number with a fixed count of places, a tie to the even one. -/
def fixedChars (places : Nat) (n : Double) : List Char :=
  let ratio := scaled (ratioOf n) places
  signChars n ++ pointed (Nat.toDigits 10 (Double.roundDiv ratio.1 ratio.2)) places

/-- So many digits of a number, and the place of the point before the first of them. -/
def someDigits (round : Nat → Nat → Nat) (count : Nat) (n : Double) : List Char × Int :=
  match n with
  | .finite _ m e =>
    if m == 0 then (zeros count, 1)
    else
      let place := Shortest.place (Shortest.window m e)
      let ratio := scaled (ratioOf n) (count - place)
      let rounded := round ratio.1 ratio.2
      if rounded == Nat.pow 10 count then ('1' :: zeros (count - 1), place + 1)
      else (Nat.toDigits 10 rounded, place)
  | _ => ([], 0)

/-- A finite number with an exponent and so many places, a tie to the even one. -/
def exponentChars (places : Nat) (n : Double) : List Char :=
  let (digits, place) := someDigits Double.roundDiv (places + 1) n
  signChars n ++ withExponent digits place

/-- A finite number with an exponent and the fewest digits that read back as it. -/
def shortestExponentChars (n : Double) : List Char :=
  match n with
  | .finite _ m e =>
    if m == 0 then "0e+0".toList
    else
      let (digits, place) := (Shortest.decimal true m e).digits
      signChars n ++ withExponent digits place
  | _ => []

/-- A finite number with so many digits, a tie to the larger one. -/
def precisionChars (count : Nat) (n : Double) : List Char :=
  let (digits, place) := someDigits roundUp count n
  let exponent := place - 1
  signChars n ++
    if exponent < -6 || exponent ≥ count then withExponent digits place
    else withPoint digits place

def digitChar (n : Nat) : Char :=
  if n < 10 then Char.ofNat ('0'.toNat + n) else Char.ofNat ('a'.toNat + n - 10)

/-- The number after one that is not negative. -/
def following (n : Double) : Double :=
  .ofBits (n.bits + 1)

/-- Adds one to the last of the digits, nearest first; says whether it goes over the point. -/
def carry (base : Nat) : List Nat → List Nat × Bool
  | [] => ([], true)
  | last :: before =>
    if last + 1 < base then ((last + 1) :: before, false) else carry base before

/-- Digits of a fraction, nearest first, until the rest is within the error; says whether the
last goes over the point. -/
def fractionDigits (base : Nat) : Nat → Double → Double → List Nat → List Nat × Bool
  | 0, _, _, digits => (digits, false)
  | fuel + 1, fraction, error, digits =>
    let scaled := fraction.mul (.ofNat base)
    let error := error.mul (.ofNat base)
    let digit := scaled.toInt.toNat
    let rest := scaled.sub (.ofNat digit)
    let digits := digit :: digits
    let up := Double.half.below rest || (rest.equal .half && digit % 2 == 1)
    if up && Double.one.below (rest.add error) then carry base digits
    else if rest.below error then (digits, false)
    else fractionDigits base fuel rest error digits

/-- The digits of a natural number, up to `z`. -/
def naturalDigits (base n : Nat) : List Char :=
  if n == 0 then ['0'] else collect (n.log2 + 1) n []
where
  collect : Nat → Nat → List Char → List Char
    | 0, _, digits => digits
    | fuel + 1, n, digits =>
      if n == 0 then digits else collect fuel (n / base) (digitChar (n % base) :: digits)

/-- Digits of a whole number. Those that it does not hold are zeros. -/
def wholeDigits (base : Nat) : Nat → Double → List Char → List Char
  | 0, _, digits => digits
  | fuel + 1, n, digits =>
    match n with
    | .finite _ _ e =>
      if e > 0 then wholeDigits base fuel (n.div (.ofNat base)) ('0' :: digits)
      else naturalDigits base n.toInt.toNat ++ digits
    | _ => digits

/-- A finite number in a base of at most thirty-six. -/
def baseChars (base : Nat) (n : Double) : List Char :=
  let value := n.abs
  let whole := value.floor
  let fraction := value.sub whole
  let step := Double.half.mul ((following value).sub value)
  let least := following (.zero false)
  let error := if step.below least then least else step
  let (digits, carries) :=
    if fraction.below error then ([], false) else fractionDigits base 1100 fraction error []
  let whole := if carries then whole.add .one else whole
  let shown := digits.reverse.map digitChar
  signChars n ++ wholeDigits base 1100 whole [] ++ (if shown.isEmpty then [] else '.' :: shown)

end FootprintTemplate.Number
