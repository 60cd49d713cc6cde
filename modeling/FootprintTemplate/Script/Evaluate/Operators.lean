import FootprintTemplate.Script.Coerce

/-! Operators on values. -/
namespace FootprintTemplate.Script

open Number (Double)
open Run
open Text (Units units)

namespace Operators

def ofFloat (f : Float) : Double :=
  .ofBits f.toBits

def toFloat (n : Double) : Float :=
  .ofBits n.bits

/-- A power. Whole exponents are taken by repeated squaring. -/
def power (base exponent : Double) : Double :=
  if exponent.isNaN then .nan
  else if exponent.isZero then .one
  else if base.abs == .one && !exponent.isFinite then .nan
  else if exponent.isWhole && exponent.abs.below (.ofNat (Nat.pow 2 31)) then
    base.powInt exponent.toInt
  else ofFloat (Float.pow (toFloat base) (toFloat exponent))

/-- More bits than an integer may have. -/
def bitLimit : Int := 1000000

def shiftInteger (a : Int) (places : Int) : Run Value :=
  if places > bitLimit then fail .range "Maximum BigInt size exceeded"
  else if places ≥ 0 then return .integer (a * Nat.pow 2 places.toNat)
  else if places < -bitLimit then return .integer (if a < 0 then -1 else 0)
  else return .integer (a.fdiv (Nat.pow 2 places.natAbs))

/-- The operation on the binary digits of two integers, with as many as both need. -/
def bitwiseInteger (op : Nat → Nat → Nat) (a b : Int) : Int :=
  let bits := max a.natAbs.log2 b.natAbs.log2 + 2
  Double.wrapSigned bits (op (Double.wrapUnsigned bits a) (Double.wrapUnsigned bits b))

def integers (op : BinaryOp) (a b : Int) : Run Value :=
  match op with
  | .add => return .integer (a + b)
  | .sub => return .integer (a - b)
  | .mul => return .integer (a * b)
  | .div => if b == 0 then fail .range "BigInt division by zero" else return .integer (a.tdiv b)
  | .rem => if b == 0 then fail .range "BigInt division by zero" else return .integer (a.tmod b)
  | .pow =>
    if b < 0 then fail .range "BigInt negative exponent"
    else if a.natAbs > 1 && b > bitLimit then fail .range "Maximum BigInt size exceeded"
    else
      let exponent := if a.natAbs ≤ 1 && b > 2 then (b % 2 + 2).toNat else b.toNat
      return .integer (Int.pow a exponent)
  | .shiftLeft => shiftInteger a b
  | .shiftRight => shiftInteger a (-b)
  | .bitAnd => return .integer (bitwiseInteger (· &&& ·) a b)
  | .bitOr => return .integer (bitwiseInteger (· ||| ·) a b)
  | .bitXor => return .integer (bitwiseInteger (· ^^^ ·) a b)
  | _ => failType "BigInts have no unsigned right shift, use >> instead"

def bitwise (op : Nat → Nat → Nat) (a b : Double) : Value :=
  .number (.ofInt (Double.wrapSigned 32 (op a.toUInt32 b.toUInt32)))

def numbers (op : BinaryOp) (a b : Double) : Value :=
  match op with
  | .add => .number (a.add b)
  | .sub => .number (a.sub b)
  | .mul => .number (a.mul b)
  | .div => .number (a.div b)
  | .rem => .number (a.rem b)
  | .pow => .number (power a b)
  | .shiftLeft =>
    .number (.ofInt (Double.wrapSigned 32 (a.toInt32 * (Nat.pow 2 (b.toUInt32 % 32)))))
  | .shiftRight => .number (.ofInt (a.toInt32.fdiv (Nat.pow 2 (b.toUInt32 % 32))))
  | .shiftUnsigned => .number (.ofNat (a.toUInt32 >>> (b.toUInt32 % 32)))
  | .bitAnd => bitwise (· &&& ·) a b
  | .bitOr => bitwise (· ||| ·) a b
  | .bitXor => bitwise (· ^^^ ·) a b
  | _ => .undefined

/-- Arithmetic on two numbers or two integers. -/
def arithmetic (m : Machine) (op : BinaryOp) (left right : Value) : Run Value := do
  let a ← Coerce.toNumeric m left
  let b ← Coerce.toNumeric m right
  match a, b with
  | .inl a, .inl b => return numbers op a b
  | .inr a, .inr b => integers op a b
  | _, _ => failType "cannot mix BigInt and other types, use explicit conversions"

/-- Texts are joined, numbers added. -/
def add (m : Machine) (left right : Value) : Run Value := do
  let left ← Coerce.toPlain m .default left
  let right ← Coerce.toPlain m .default right
  match left, right with
  | .text a, right => return .text (a ++ (← Coerce.plainText right))
  | left, .text b => return .text ((← Coerce.plainText left) ++ b)
  | left, right => arithmetic m .add left right

def strictlyEqual : Value → Value → Bool
  | .number a, .number b => a.equal b
  | a, b => a == b

/-- The order of an integer and a number. -/
def compareMixed? (a : Int) (b : Double) : Option Ordering :=
  match b with
  | .nan => none
  | .infinity negative => some (if negative then .gt else .lt)
  | b =>
    let low := b.floor.toInt
    some (if a < low then .lt else if a > low then .gt else if b.isWhole then .eq else .lt)

/-- Equal once both are of one kind. -/
def looselyEqual (m : Machine) : Nat → Value → Value → Run Bool
  | 0, _, _ => return false
  | fuel + 1, left, right =>
    match left, right with
    | .undefined, .null | .null, .undefined => return true
    | .undefined, .undefined | .null, .null => return true
    | .undefined, _ | .null, _ | _, .undefined | _, .null => return false
    | .number a, .number b => return a.equal b
    | .number a, .text b => return a.equal (textNumber b)
    | .text a, .number b => return (textNumber a).equal b
    | .integer a, .text b => return textInteger? b == some a
    | .text a, .integer b => return textInteger? a == some b
    | .integer a, .number b | .number b, .integer a => return compareMixed? a b == some .eq
    | .truth a, .truth b => return a == b
    | .truth a, right => looselyEqual m fuel (.number (.ofNat (if a then 1 else 0))) right
    | left, .truth b => looselyEqual m fuel left (.number (.ofNat (if b then 1 else 0)))
    | .object a, .object b => return a == b
    | .object a, right => do
      looselyEqual m fuel (← Coerce.toPlain m .default (.object a)) right
    | left, .object b => do
      looselyEqual m fuel left (← Coerce.toPlain m .default (.object b))
    | left, right => return left == right

def equal (m : Machine) (left right : Value) : Run Bool :=
  looselyEqual m 8 left right

/-- The order of two values that are no objects. -/
def comparePlain? (left right : Value) : Run (Option Ordering) := do
  match left, right with
  | .text a, .text b =>
    return some (if a == b then .eq else if Text.isBelow a b then .lt else .gt)
  | .integer a, .integer b => return some (compare a b)
  | .integer a, .text b => return (textInteger? b).map (compare a ·)
  | .text a, .integer b => return (textInteger? a).map (compare · b)
  | .integer a, right => return compareMixed? a (← Coerce.plainNumber right)
  | left, .integer b => return (compareMixed? b (← Coerce.plainNumber left)).map Ordering.swap
  | left, right => return (← Coerce.plainNumber left).compare? (← Coerce.plainNumber right)

def compareWith (m : Machine) (fits : Ordering → Bool) (left right : Value) : Run Value := do
  let left ← Coerce.toPlain m .number left
  let right ← Coerce.toPlain m .number right
  return .truth ((← comparePlain? left right).any fits)

/-- The prototype of a routine is among the bases of an object. -/
def isMade (m : Machine) (maker : Nat) (value : Value) : Run Bool := do
  match value with
  | .object id =>
    match ← Member.get m maker (.ofString "prototype") with
    | .object base =>
      let rec go : Nat → Nat → Run Bool
        | 0, _ => return false
        | fuel + 1, id => do
          match ← Member.prototype m id with
          | none => return false
          | some next => if next == base then return true else go fuel next
      go Member.reach id
    | _ => failType "function has non-object prototype in instanceof check"
  | _ => return false

/-- The test of an ordinary routine, which may stand for another one. -/
def isOrdinaryInstance (m : Machine) : Nat → Value → Value → Run Bool
  | 0, _, _ => return false
  | fuel + 1, value, maker => do
    if !(← Coerce.isCallable maker) then return false
    match maker with
    | .object id =>
      match (← object id).kind with
      | .bound target _ _ => isOrdinaryInstance m fuel value (.object target)
      | _ => isMade m id value
    | _ => return false

/-- An operand that has to be an object is none. -/
def failOperand {α : Type} (operator : String) (value : Value) : Run α := do
  failType ("right-hand side of '" ++ operator ++ "' should be an object, got \x60" ++
    (← Coerce.typeName value) ++ "\x60")

def isInstance (m : Machine) (value maker : Value) : Run Bool := do
  match maker with
  | .object _ =>
    match ← Coerce.methodOf? m maker Sign.hasInstance.key with
    | some method => return Coerce.isTrue (← m.call method maker [value])
    | none =>
      if ← Coerce.isCallable maker then isOrdinaryInstance m 100 value maker
      else failType "right-hand side of 'instanceof' is not callable"
  | value => failOperand "instanceof" value

def hasMember (m : Machine) (key owner : Value) : Run Bool := do
  match owner with
  | .object id => Member.has m id (← Coerce.toKey m key)
  | value => failOperand "in" value

def apply (m : Machine) (op : BinaryOp) (left right : Value) : Run Value := do
  match op with
  | .add => add m left right
  | .equal => return .truth (← equal m left right)
  | .unequal => return .truth !(← equal m left right)
  | .same => return .truth (strictlyEqual left right)
  | .different => return .truth !(strictlyEqual left right)
  | .less => compareWith m (· == .lt) left right
  | .greater => compareWith m (· == .gt) left right
  | .lessEqual => compareWith m (· != .gt) left right
  | .greaterEqual => compareWith m (· != .lt) left right
  | .hasMember => return .truth (← hasMember m left right)
  | .isInstance => return .truth (← isInstance m left right)
  | op => arithmetic m op left right

def negate (m : Machine) (value : Value) : Run Value := do
  match ← Coerce.toNumeric m value with
  | .inl n => return .number n.negate
  | .inr n => return .integer (-n)

def complement (m : Machine) (value : Value) : Run Value := do
  match ← Coerce.toNumeric m value with
  | .inl n => return .number (.ofInt (-n.toInt32 - 1))
  | .inr n => return .integer (-n - 1)

def unary (m : Machine) (op : UnaryOp) (value : Value) : Run Value := do
  match op with
  | .minus => negate m value
  | .plus => return .number (← Coerce.toNumber m value)
  | .complement => complement m value
  | .not => return .truth !(Coerce.isTrue value)
  | .typeName => return .ofString (← Coerce.typeName value)
  | .nothing => return .undefined

/-- The value before and after adding or taking away one. -/
def step (m : Machine) (up : Bool) (value : Value) : Run (Value × Value) := do
  match ← Coerce.toNumeric m value with
  | .inl n => return (.number n, .number (if up then n.add .one else n.sub .one))
  | .inr n => return (.integer n, .integer (if up then n + 1 else n - 1))

end Operators

end FootprintTemplate.Script
