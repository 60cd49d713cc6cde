import FootprintTemplate.Number.Double

/-! Further operations on numbers of 64 bits: products, quotients, order, whole parts and powers. -/
namespace FootprintTemplate.Number.Double

def ofInt (n : Int) : Double :=
  ofRatio (n < 0) n.natAbs 1

def ofNat (n : Nat) : Double :=
  ofRatio false n 1

def isNaN : Double → Bool
  | .nan => true
  | _ => false

def isFinite : Double → Bool
  | .finite _ _ _ => true
  | _ => false

def isZero : Double → Bool
  | .finite _ m _ => m == 0
  | _ => false

/-- The sign bit is set. -/
def isNegative : Double → Bool
  | .nan => false
  | .infinity negative | .finite negative _ _ => negative

def abs : Double → Double
  | .nan => .nan
  | .infinity _ => .infinity false
  | .finite _ m e => .finite false m e

def sub (a b : Double) : Double :=
  add a b.negate

def mul : Double → Double → Double
  | .nan, _ | _, .nan => .nan
  | .infinity a, .infinity b => .infinity (a != b)
  | .infinity a, .finite b m _ | .finite b m _, .infinity a =>
    if m == 0 then .nan else .infinity (a != b)
  | .finite na ma ea, .finite nb mb eb => ofShifted (na != nb) (ma * mb) (ea + eb)

def div : Double → Double → Double
  | .nan, _ | _, .nan => .nan
  | .infinity _, .infinity _ => .nan
  | .infinity a, .finite b _ _ => .infinity (a != b)
  | .finite a _ _, .infinity b => zero (a != b)
  | .finite na ma ea, .finite nb mb eb =>
    if mb == 0 then if ma == 0 then .nan else .infinity (na != nb)
    else
      let e := ea - eb
      ofRatio (na != nb) (ma <<< e.toNat) (mb <<< (-e).toNat)

/-- The order of two numbers, unless one is NaN. Both zeros are alike. -/
def compare? : Double → Double → Option Ordering
  | .nan, _ | _, .nan => none
  | .infinity a, .infinity b => some (if a == b then .eq else if a then .lt else .gt)
  | .infinity a, .finite _ _ _ => some (if a then .lt else .gt)
  | .finite _ _ _, .infinity b => some (if b then .gt else .lt)
  | .finite na ma ea, .finite nb mb eb =>
    let base := min ea eb
    some (compare (aligned na ma ea base) (aligned nb mb eb base))

def below (a b : Double) : Bool :=
  compare? a b == some .lt

def equal (a b : Double) : Bool :=
  compare? a b == some .eq

/-- Same number, where NaN is like itself; the signs of zeros tell them apart. -/
def same (a b : Double) : Bool :=
  match a, b with
  | .nan, .nan => true
  | .finite na 0 _, .finite nb 0 _ => na == nb
  | a, b => equal a b

/-- The whole part toward zero. -/
def toInt? : Double → Option Int
  | .finite negative m e =>
    let n : Int := if e < 0 then m >>> (-e).toNat else m <<< e.toNat
    some (if negative then -n else n)
  | _ => none

/-- The whole part toward zero; infinities and NaN give zero. -/
def toInt (a : Double) : Int :=
  a.toInt?.getD 0

def isWhole : Double → Bool
  | .finite _ m e => e ≥ 0 || m % (1 <<< (-e).toNat) == 0
  | _ => false

/-- A number that keeps its sign where it becomes zero. -/
def withSignOf (a : Double) (n : Int) : Double :=
  if n == 0 then zero a.isNegative else ofInt n

def truncate (a : Double) : Double :=
  match a.toInt? with
  | some n => withSignOf a n
  | none => a

def floor (a : Double) : Double :=
  match a.toInt? with
  | some n => if a.isWhole || !a.isNegative then withSignOf a n else ofInt (n - 1)
  | none => a

def ceil (a : Double) : Double :=
  a.negate.floor.negate

def half : Double :=
  ofRatio false 1 2

/-- The nearest whole number, a half goes up. -/
def round (a : Double) : Double :=
  if a.isWhole then a
  else match (add a half).floor with
    | .finite _ 0 _ => zero a.isNegative
    | b =>
      let low := a.floor
      if below (sub a low) half then (if low.isZero then zero a.isNegative else low) else b

/-- The remainder that an integer leaves modulo two to the power `bits`. -/
def wrapUnsigned (bits : Nat) (n : Int) : Nat :=
  (n % Nat.pow 2 bits).toNat

def wrapSigned (bits : Nat) (n : Int) : Int :=
  let u := wrapUnsigned bits n
  if u < Nat.pow 2 (bits - 1) then u else (u : Int) - Nat.pow 2 bits

def toInt32 (a : Double) : Int :=
  wrapSigned 32 a.toInt

def toUInt32 (a : Double) : Nat :=
  wrapUnsigned 32 a.toInt

/-- A natural power by repeated squaring, each product rounded. -/
def squarings (fuel : Nat) (result base : Double) (n : Nat) : Double :=
  match fuel with
  | 0 => result
  | fuel + 1 =>
    let result := if n % 2 == 1 then mul result base else result
    if n / 2 == 0 then result else squarings fuel result (mul base base) (n / 2)

def one : Double :=
  ofNat 1

def powInt (base : Double) (n : Int) : Double :=
  let power := squarings 64 one base n.natAbs
  if n < 0 then div one power else power

/-- The floor of the square root by bisection between bounds. -/
def sqrtBetween (n : Nat) : Nat → Nat → Nat → Nat
  | 0, low, _ => low
  | fuel + 1, low, high =>
    if high ≤ low + 1 then low
    else
      let middle := (low + high) / 2
      if middle * middle ≤ n then sqrtBetween n fuel middle high
      else sqrtBetween n fuel low middle

def sqrtFloor (n : Nat) : Nat :=
  sqrtBetween n (n.log2 + 2) 0 (1 <<< (n.log2 / 2 + 1))

/-- The square root, rounded to nearest. Two further bits and a sticky one decide the rounding. -/
def sqrt : Double → Double
  | .nan => .nan
  | .infinity negative => if negative then .nan else .infinity false
  | .finite negative m e =>
    if m == 0 then .finite negative m e
    else if negative then .nan
    else
      let shift := 2 * precision + 4 + (e % 2).toNat
      let n := m <<< shift
      let root := sqrtFloor n
      let sticky := if root * root == n then 0 else 1
      ofShifted false (2 * root + sticky) ((e - shift) / 2 - 1)

def bits : Double → UInt64
  | .nan => 0x7ff8000000000000
  | .infinity negative => (if negative then 0x8000000000000000 else 0) + 0x7ff0000000000000
  | .finite negative m e =>
    let sign : UInt64 := if negative then 0x8000000000000000 else 0
    if m < Nat.pow 2 52 then sign + m.toUInt64
    else sign + (((e + 1075).toNat.toUInt64) <<< 52) + (m - Nat.pow 2 52).toUInt64

def ofBits (b : UInt64) : Double :=
  let negative := b ≥ 0x8000000000000000
  let e := ((b >>> 52) &&& 0x7ff).toNat
  let m := (b &&& 0xfffffffffffff).toNat
  if e == 0x7ff then if m == 0 then .infinity negative else .nan
  else if e == 0 then .finite negative m minExponent
  else .finite negative (m + Nat.pow 2 52) ((e : Int) - 1075)

end FootprintTemplate.Number.Double
