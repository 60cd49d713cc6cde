import FootprintTemplate.Script.Library.Native

/-! Mathematical functions. -/
namespace FootprintTemplate.Script.Library.Mathematics

open Number (Double)
open Operators (ofFloat toFloat)
open Run

/-- A function of one number. -/
def function (name : String) (f : Double → Double) : Native :=
  ⟨name, 1, fun call => do return .number (f (← call.number 0))⟩

/-- A function of the real numbers, with the accuracy that the machine gives. -/
def real (name : String) (f : Float → Float) : Native :=
  function name fun n => ofFloat (f (toFloat n))

def numbers (call : Call) : Run (List Double) :=
  call.arguments.mapM (Coerce.toNumber call.machine)

/-- The greater of two numbers. Zero is greater than its negative. -/
def greater (a b : Double) : Double :=
  if a.isNaN || b.isNaN then .nan
  else if a.below b then b
  else if a.isZero && b.isZero && a.isNegative then b
  else a

def lesser (a b : Double) : Double :=
  (greater a.negate b.negate).negate

/-- Leading zeros of the 32 bits of a number. -/
def leadingZeros (n : Double) : Double :=
  let bits := n.toUInt32
  .ofNat (if bits == 0 then 32 else 31 - bits.log2)

def product (call : Call) : Run Value := do
  let a := (← call.number 0).toUInt32
  let b := (← call.number 1).toUInt32
  return .number (.ofInt (Double.wrapSigned 32 ((a * b : Nat) : Int)))

/-- The root of the sum of the squares. -/
def length (call : Call) : Run Value := do
  let all ← numbers call
  return .number <|
    if all.any fun n => n matches .infinity _ then .infinity false
    else Double.sqrt (all.foldl (fun sum n => sum.add (n.mul n)) (.zero false))

def sign (n : Double) : Double :=
  if n.isNaN || n.isZero then n else .ofInt (if n.isNegative then -1 else 1)

/-- The exponential less one, by its series near zero. -/
def exponentialLessOne (x : Float) : Float :=
  if x.abs < 1.0e-5 then x + x * x / 2 + x * x * x / 6 else x.exp - 1

/-- The logarithm of a number and one, by its series near zero. -/
def logarithmOfNext (x : Float) : Float :=
  if x.abs < 1.0e-5 then x - x * x / 2 + x * x * x / 3 else (1 + x).log

/-- The nearest number of 32 bits. -/
def single (x : Float) : Float :=
  x.toFloat32.toFloat

def family : Family where
  name := "Math"
  tag := some "Math"
  constants := [("E", .number (ofFloat 2.718281828459045)),
    ("LN10", .number (ofFloat 2.302585092994046)), ("LN2", .number (ofFloat 0.6931471805599453)),
    ("LOG10E", .number (ofFloat 0.4342944819032518)),
    ("LOG2E", .number (ofFloat 1.4426950408889634)),
    ("PI", .number (ofFloat 3.141592653589793)),
    ("SQRT1_2", .number (ofFloat 0.7071067811865476)),
    ("SQRT2", .number (ofFloat 1.4142135623730951))]
  own := [function "abs" Double.abs, real "acos" Float.acos, real "acosh" Float.acosh,
    real "asin" Float.asin, real "asinh" Float.asinh, real "atan" Float.atan,
    real "atanh" Float.atanh,
    ⟨"atan2", 2, fun call => do
      let y ← call.number 0
      return .number (ofFloat (Float.atan2 (toFloat y) (toFloat (← call.number 1))))⟩,
    real "cbrt" Float.cbrt, function "ceil" Double.ceil, function "clz32" leadingZeros,
    real "cos" Float.cos, real "cosh" Float.cosh, real "exp" Float.exp,
    real "expm1" exponentialLessOne, function "floor" Double.floor, real "fround" single,
    ⟨"hypot", 2, length⟩, ⟨"imul", 2, product⟩, real "log" Float.log,
    real "log1p" logarithmOfNext, real "log10" Float.log10, real "log2" Float.log2,
    ⟨"max", 2, fun call => do
      return .number ((← numbers call).foldl greater (.infinity true))⟩,
    ⟨"min", 2, fun call => do
      return .number ((← numbers call).foldl lesser (.infinity false))⟩,
    ⟨"pow", 2, fun call => do
      let base ← call.number 0
      return .number (Operators.power base (← call.number 1))⟩,
    ⟨"random", 0, fun _ => return .number .half⟩,
    function "round" Double.round, function "sign" sign, real "sin" Float.sin,
    real "sinh" Float.sinh, function "sqrt" Double.sqrt, real "tan" Float.tan,
    real "tanh" Float.tanh, function "trunc" Double.truncate]

end FootprintTemplate.Script.Library.Mathematics
