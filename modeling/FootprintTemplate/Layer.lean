import FootprintTemplate.Text.Pieces

/-! Layers and the two faces of a board. A layer that is tied to a face starts with the letter of
that face and a dot. -/
namespace FootprintTemplate

/-- A face of the board. -/
inductive Side where
  | front
  | back
deriving DecidableEq, Repr

namespace Side

def letter : Side → String
  | front => "F"
  | back => "B"

def opposite : Side → Side
  | front => back
  | back => front

end Side

namespace Layer

/-- The side on which a footprint of this layer lies. Layers of no face count as front. -/
def side (layer : String) : Side :=
  match layer.toList with
  | 'B' :: '.' :: _ => .back
  | _ => .front

def swapFaceChars? : List Char → Option (List Char)
  | 'F' :: '.' :: rest => some ('B' :: '.' :: rest)
  | 'B' :: '.' :: rest => some ('F' :: '.' :: rest)
  | _ => none

theorem swapFaceChars?_swapped {chars swapped : List Char}
    (h : swapFaceChars? chars = some swapped) : swapFaceChars? swapped = some chars := by
  fun_cases swapFaceChars? chars with
  | case1 rest => obtain rfl := Option.some.inj h; rfl
  | case2 rest => obtain rfl := Option.some.inj h; rfl
  | case3 => simp_all [swapFaceChars?]

/-- The layer in the same place on the other face, for layers tied to a face. -/
def swapFace? (layer : String) : Option String :=
  (swapFaceChars? layer.toList).map String.ofList

/-- The name read from its last part to its first, so that layers of one family come together. -/
def sortKey (layer : String) : String :=
  String.ofList (Text.join '.' (Text.pieces '.' layer.toList).reverse)

end Layer

end FootprintTemplate
