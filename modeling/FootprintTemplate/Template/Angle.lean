import FootprintTemplate.Number.Read

/-! Rotations as expressions over the rotation of the placement. -/
namespace FootprintTemplate.Template

inductive Angle where
  /-- The rotation with which the footprint is placed. -/
  | placed
  | literal (text : String)
  | sum (left right : Angle)
  | rem (left right : Angle)
deriving DecidableEq, Repr

/-- Numbers that an expression can be read in. The remainder is that of division toward zero. -/
structure Arithmetic (α : Type) where
  read : String → α
  add : α → α → α
  rem : α → α → α

namespace Angle

def fullTurn : Angle :=
  .literal "360"

/-- The placement's rotation and a further one, brought into one turn. -/
def turned (delta : String) : Angle :=
  .rem (.sum (.rem (.sum .placed (.literal delta)) fullTurn) fullTurn) fullTurn

def isCompound : Angle → Bool
  | .placed | .literal _ => false
  | .sum _ _ | .rem _ _ => true

def enclosed (angle : Angle) (chars : List Char) : List Char :=
  if angle.isCompound then '(' :: (chars ++ [')']) else chars

/-- The expression as it is written. Compound operands stand in parentheses. -/
def chars : Angle → List Char
  | .placed => "p.r".toList
  | .literal text => text.toList
  | .sum left right => left.enclosed left.chars ++ " + ".toList ++ right.enclosed right.chars
  | .rem left right => left.enclosed left.chars ++ " % ".toList ++ right.enclosed right.chars

def eval {α : Type} (arithmetic : Arithmetic α) (rotation : α) : Angle → α
  | .placed => rotation
  | .literal text => arithmetic.read text
  | .sum left right =>
    arithmetic.add (left.eval arithmetic rotation) (right.eval arithmetic rotation)
  | .rem left right =>
    arithmetic.rem (left.eval arithmetic rotation) (right.eval arithmetic rotation)

end Angle

/-- The arithmetic of a script. -/
def doubles : Arithmetic Number.Double where
  read text := Number.valueOf text.toList
  add := .add
  rem := .rem

end FootprintTemplate.Template
