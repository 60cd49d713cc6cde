import FootprintTemplate.Number.Shortest
import FootprintTemplate.Preview.Params
import FootprintTemplate.Script.Literal

/-! Placements of a module on a board. The nets of the module are mapped to those of the board,
which are numbered from one; the empty net is number zero. -/
namespace FootprintTemplate.Preview

open Number (Double)

/-- Where a footprint lands, and the board's nets by the module's. -/
structure Placement where
  x : Double := .zero false
  y : Double := .zero false
  r : Double := .zero false
  side : String := "F"
  nets : List (String × String) := []

inductive PreviewError where
  | params (error : ParamError)
  | invalidScript
  | unsupportedSide (side : String)
  /-- The script stopped before its end. -/
  | failed (cause : String)
deriving DecidableEq, Repr

def PreviewError.message : PreviewError → String
  | .params error => error.message
  | .invalidScript => "template script failed"
  | .unsupportedSide side => "template script failed: Error: unsupported side: " ++ side
  | .failed cause => "template script failed: " ++ cause

/-- The number of a net among the nets numbered before, and those nets with it. -/
def number (board : List String) (net : String) : Nat × List String :=
  if net == "" then (0, board)
  else match board.idxOf? net with
    | some i => (i + 1, board)
    | none => (board.length + 1, board ++ [net])

def netText (index : Nat) (net : String) : List Char :=
  "(net ".toList ++ (toString index).toList ++ ' ' :: (Script.stringLiteral net.toList ++ [')'])

/-- The net of the board that a net of the module stands for. -/
def resolve (nets : List (String × String)) (name : String) (param : Param) : String :=
  (nets.lookup name).getD (param.default.getD name)

structure BoardNet where
  index : Nat
  name : String
deriving DecidableEq, Repr

def BoardNet.text (net : BoardNet) : List Char :=
  netText net.index net.name

/-- The nets of the parameters, numbered in their order. The side is never replaced. -/
def boardNets (nets : List (String × String)) (board : List String) :
    List (String × Param) → List (String × BoardNet)
  | [] => []
  | (name, param) :: rest =>
    if name == "side" || param.kind != .net then boardNets nets board rest
    else
      let net := resolve nets name param
      let next := number board net
      (name, ⟨next.1, net⟩) :: boardNets nets next.2 rest

/-- Numbers this close to zero are written as zero. -/
def isNegligible : Double → Bool
  | .finite _ m e =>
    match Double.ofDecimal false 1 (-12) with
    | .finite _ limit limitExponent => Double.isSmaller m e limit limitExponent
    | _ => false
  | _ => false

def coordinateChars (value : Double) : List Char :=
  Number.placementStyle.chars (if isNegligible value then .zero false else value)

def atChars (placement : Placement) : List Char :=
  "(at ".toList ++ coordinateChars placement.x ++ ' ' :: (coordinateChars placement.y ++
    ' ' :: (coordinateChars placement.r ++ [')']))

end FootprintTemplate.Preview
