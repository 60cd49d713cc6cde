/-! Numbers of 64 bits with exact arithmetic before one rounding. A result is rounded to the nearest
number, a tie to the one with an even mantissa. -/
namespace FootprintTemplate.Number

/-- A finite number is `mantissa * 2 ^ exponent` up to its sign. -/
inductive Double where
  | nan
  | infinity (negative : Bool)
  | finite (negative : Bool) (mantissa : Nat) (exponent : Int)
deriving DecidableEq, Repr

namespace Double

def minExponent : Int := -1074

def maxExponent : Int := 971

/-- Mantissas stay below two to this power. -/
def precision : Nat := 53

def zero (negative : Bool) : Double :=
  .finite negative 0 minExponent

/-- The quotient rounded to the nearest natural number, a tie to the even one. -/
def roundDiv (num den : Nat) : Nat :=
  let low := num / den
  let twice := 2 * (num % den)
  if twice < den || (twice == den && low % 2 == 0) then low else low + 1

/-- `n * 2 ^ e` as a quotient. -/
def shifted (n : Nat) (e : Int) : Nat × Nat :=
  (n <<< e.toNat, 1 <<< (-e).toNat)

/-- `num / den` in units of `2 ^ e`, as a quotient. -/
def inUnits (num den : Nat) (e : Int) : Nat × Nat :=
  (num <<< (-e).toNat, den <<< e.toNat)

/-- The exponent with which the mantissa of `num / den` has all its bits, or the smallest. -/
def unitExponent (num den : Nat) : Int :=
  let guess : Int := (num.log2 : Int) - den.log2 - precision
  let units := inUnits num den guess
  let fit := if units.1 / units.2 < 1 <<< precision then guess else guess + 1
  max fit minExponent

/-- The number nearest to `num / den`. -/
def ofRatio (negative : Bool) (num den : Nat) : Double :=
  if num == 0 then zero negative
  else
    let e := unitExponent num den
    let units := inUnits num den e
    let m := roundDiv units.1 units.2
    let (m, e) := if m == 1 <<< precision then (m / 2, e + 1) else (m, e)
    if maxExponent < e then .infinity negative else .finite negative m e

/-- The number nearest to `n * 2 ^ e`. -/
def ofShifted (negative : Bool) (n : Nat) (e : Int) : Double :=
  let ratio := shifted n e
  ofRatio negative ratio.1 ratio.2

/-- Decimal places beyond which every number is infinite or zero. -/
def decimalReach : Int := 400

/-- The number nearest to `digits * 10 ^ e`. -/
def ofDecimal (negative : Bool) (digits : Nat) (e : Int) : Double :=
  let top := e + (digits.log2 / 3 : Nat)
  if digits == 0 then zero negative
  else if e > decimalReach then .infinity negative
  else if top < -decimalReach - 1 then zero negative
  else ofRatio negative (digits * Nat.pow 10 e.toNat) (Nat.pow 10 (-e).toNat)

def negate : Double → Double
  | .nan => .nan
  | .infinity negative => .infinity !negative
  | .finite negative m e => .finite (!negative) m e

/-- `m * 2 ^ e` in units of `2 ^ base`, for a base that is not above `e`. -/
def aligned (negative : Bool) (m : Nat) (e base : Int) : Int :=
  let n : Int := m <<< (e - base).toNat
  if negative then -n else n

def add : Double → Double → Double
  | .nan, _ | _, .nan => .nan
  | .infinity a, .infinity b => if a == b then .infinity a else .nan
  | .infinity a, .finite _ _ _ => .infinity a
  | .finite _ _ _, .infinity b => .infinity b
  | .finite na ma ea, .finite nb mb eb =>
    let base := min ea eb
    let sum := aligned na ma ea base + aligned nb mb eb base
    if sum == 0 then zero (na && nb)
    else ofShifted (sum < 0) sum.natAbs base

/-- The remainder of division toward zero. It has the sign of the dividend. -/
def rem : Double → Double → Double
  | .nan, _ | _, .nan => .nan
  | .infinity _, _ => .nan
  | .finite na ma ea, .infinity _ => .finite na ma ea
  | .finite na ma ea, .finite _ mb eb =>
    if mb == 0 then .nan
    else
      let base := min ea eb
      let left := (aligned false ma ea base).natAbs
      let right := (aligned false mb eb base).natAbs
      ofShifted na (left % right) base

/-- The magnitude is below that of another finite number. -/
def isSmaller (m : Nat) (e : Int) (limit : Nat) (limitExponent : Int) : Bool :=
  let base := min e limitExponent
  aligned false m e base < aligned false limit limitExponent base

end Double

end FootprintTemplate.Number
