import FootprintTemplate.Layer
import FootprintTemplate.Sexpr.Node
import FootprintTemplate.Text.Lowercase

/-! Groups of a footprint's children, in the order in which they are written. Drawings form one
group for each layer. Inside a group children keep their source order. -/
namespace FootprintTemplate

open Sexpr (Node unquote)

inductive GroupKind where
  | wellKnown
  | unknown
  | pads
  | drawings
  | zones
  | models
  | properties
deriving DecidableEq, Repr

namespace GroupKind

/-- The kinds in written order. -/
def all : List GroupKind :=
  [wellKnown, unknown, pads, drawings, zones, models, properties]

def drawingKinds : List String :=
  ["fp_text", "fp_text_box", "fp_line", "fp_rect", "fp_circle", "fp_arc", "fp_poly", "fp_curve"]

/-- The group of a child node. The footprint's own placement and layer are in none. -/
def of? (kind : String) : Option GroupKind :=
  if kind == "at" || kind == "layer" then none
  else if kind == "attr" || kind == "tags" || kind == "descr" then some wellKnown
  else if kind == "pad" then some pads
  else if drawingKinds.contains kind then some drawings
  else if kind == "zone" then some zones
  else if kind == "model" then some models
  else if kind == "property" then some properties
  else some unknown

/-- The heading of a group. Drawings are headed by their layer instead. -/
def label : GroupKind → String
  | wellKnown => ""
  | unknown => "Unknown"
  | pads => "Pads"
  | drawings => "Drawings"
  | zones => "Zones"
  | models => "3D Models"
  | properties => "Properties"

end GroupKind

structure Group where
  kind : GroupKind
  label : String
  nodes : List Node
deriving Repr

def drawingLayer (drawing : Node) : String :=
  (((drawing.child? "layer").bind Node.firstAtom?).map unquote).getD "Unknown Layer"

/-- Layers are ordered by their key without regard to case, then by the key itself. -/
def layerLe (first second : String) : Bool :=
  let a := Layer.sortKey first
  let b := Layer.sortKey second
  let x := Text.lowercase a
  let y := Text.lowercase b
  x < y || (x == y && a ≤ b)

/-- One group for each layer. -/
def drawingGroups (drawings : List Node) : List Group :=
  ((drawings.map drawingLayer).eraseDups.mergeSort layerLe).map fun layer =>
    ⟨.drawings, "Drawings on " ++ layer, drawings.filter (drawingLayer · == layer)⟩

def groupOf (kind : GroupKind) (nodes : List Node) : List Group :=
  match kind, nodes with
  | _, [] => []
  | .drawings, nodes => drawingGroups nodes
  | kind, nodes => [⟨kind, kind.label, nodes⟩]

def classify (footprint : Node) : List Group :=
  GroupKind.all.flatMap fun kind =>
    groupOf kind (footprint.nodes.filter (GroupKind.of? ·.kind == some kind))

end FootprintTemplate
