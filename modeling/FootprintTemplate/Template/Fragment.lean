import FootprintTemplate.Number.Shortest
import FootprintTemplate.Script.Literal
import FootprintTemplate.Template.Angle

/-! Pieces of a template: fixed text and places that are filled in when the footprint is placed.
A piece can be printed as part of a script's template literal, or filled in directly. -/
namespace FootprintTemplate.Template

inductive Fragment where
  /-- Text of the writer's own. -/
  | punct (text : String)
  /-- Text of the source, kept literal. -/
  | source (text : String)
  /-- An X coordinate, mirrored on the other face. -/
  | coordinate (x : String)
  /-- The first text on the other face, the second one on the footprint's own. -/
  | faced (flipped plain : String)
  /-- The placement's rotation, with a further one added. -/
  | rotation (delta : Option String)
  /-- The keyword for mirrored text. Text that is mirrored already loses it on the other face. -/
  | mirrorFlag (mirrored : Bool)
  /-- The net of a pad. -/
  | net (pad : String)
deriving DecidableEq, Repr

/-- What fills the places of a template. -/
structure Filling where
  flip : Bool
  /-- The number that `p.r` holds, or the text of a net that took its place. -/
  rotation : Number.Double ⊕ List Char
  /-- The text of a pad's net. -/
  net : String → List Char

namespace Fragment

/-- An expression between the marks of a substitution. -/
def substitution (expression : List Char) : List Char :=
  '$' :: '\x7b' :: (expression ++ ['\x7d'])

/-- A choice between two expressions by the face. -/
def choice (flipped plain : List Char) : List Char :=
  substitution ("(flip ? ".toList ++ flipped ++ " : ".toList ++ plain ++ [')'])

def angle (delta : Option String) : Angle :=
  (delta.map Angle.turned).getD .placed

/-- The text that fills the place of the mirror keyword. -/
def mirrorText (shown : Bool) : List Char :=
  if shown then " mirror".toList else []

/-- The piece inside a template literal. -/
def chars (netOf : String → String) : Fragment → List Char
  | .punct text => text.toList
  | .source text => Script.escapeTemplate text.toList
  | .coordinate x => choice (Number.mirrorChars x.toList) x.toList
  | .faced flipped plain =>
    choice (Script.stringLiteral flipped.toList) (Script.stringLiteral plain.toList)
  | .rotation delta => substitution (angle delta).chars
  | .mirrorFlag mirrored =>
    substitution (" flip ? ".toList ++ Script.stringLiteral (mirrorText !mirrored) ++
      " : ".toList ++ Script.stringLiteral (mirrorText mirrored))
  | .net pad => substitution (Script.propertyAccess ['p'] (netOf pad).toList)

def numberChars (value : Number.Double) : List Char :=
  Number.scriptStyle.chars value

/-- The piece once its place is filled. A net in the place of the rotation cannot be added to. -/
def fill (filling : Filling) : Fragment → List Char
  | .punct text => text.toList
  | .source text => Script.lineFeeds text.toList
  | .coordinate x =>
    numberChars (Number.valueOf
      (if filling.flip then Number.mirrorChars x.toList else x.toList))
  | .faced flipped plain => if filling.flip then flipped.toList else plain.toList
  | .rotation delta =>
    match filling.rotation, delta with
    | .inl number, delta => numberChars ((angle delta).eval doubles number)
    | .inr text, none => text
    | .inr _, some _ => numberChars .nan
  | .mirrorFlag mirrored => mirrorText (mirrored != filling.flip)
  | .net pad => filling.net pad

/-- A script can read the piece. Digits of other scripts than ASCII are no number there. -/
def isScript : Fragment → Bool
  | .coordinate text | .rotation (some text) => text.toList.all (·.toNat < 128)
  | _ => true

end Fragment

/-- The pieces inside a template literal. -/
def chars (netOf : String → String) (fragments : List Fragment) : List Char :=
  fragments.flatMap (Fragment.chars netOf)

def fill (filling : Filling) (fragments : List Fragment) : List Char :=
  fragments.flatMap (Fragment.fill filling)

end FootprintTemplate.Template
