import FootprintTemplate.Group
import FootprintTemplate.Module
import FootprintTemplate.NetNamer
import FootprintTemplate.Sexpr.Parse
import FootprintTemplate.Writer.Write

/-! Conversion of a footprint into a module. -/
namespace FootprintTemplate

open Sexpr (Node unquote)
open Template (Fragment)
open Writer (Draft Misshapen Rule)

inductive ConvertError where
  | parse (error : Sexpr.ParseError)
  | notAFootprint (kind : String)
  | misshapen (error : Misshapen)
  /-- No rule takes a node inside nodes of these kinds, the outermost first. -/
  | noRule (kind : String) (ancestors : List String)
deriving DecidableEq, Repr

def ConvertError.message : ConvertError → String
  | .parse error => error.message
  | .notAFootprint kind =>
    "expected a footprint (or legacy module) at the root, found (" ++ kind ++ " ...)"
  | .misshapen error => error.message
  | .noRule kind ancestors =>
    "no writer rule handles (" ++ kind ++ " ...) under [" ++ ", ".intercalate ancestors ++ "]"

/-- A module and the nets of the pads it asked for. -/
structure Conversion where
  written : Module
  namer : NetNamer

namespace Conversion

/-- The nets of the connected pads, in the order of first asking. -/
def netMap (conversion : Conversion) : List (String × String) :=
  conversion.namer.assigned

def code (conversion : Conversion) : String :=
  conversion.written.code conversion.namer.netOf

end Conversion

/-- The statement of a child node, unless its rule leaves it out. -/
def draftStatement (root : String) (node : Node) : Draft (Option Statement) :=
  let rule := Rule.select (some root) node.kind
  if rule.disposition == .skip then .pure none
  else (Writer.write (some root) node).bind fun fragments =>
    .pure (some ⟨rule.disposition == .disabled, fragments⟩)

def draftStatements (root : String) (nodes : List Node) : Draft (List Statement) :=
  (Draft.all (nodes.map (draftStatement root))).bind fun statements =>
    .pure (statements.filterMap id)

def draftSections (footprint : Node) : Draft (List Section) :=
  .all ((classify footprint).map fun group =>
    (draftStatements footprint.kind group.nodes).bind fun statements =>
      .pure ⟨group.label, statements⟩)

def draftLayer (footprint : Node) : Draft (Option Statement) :=
  match footprint.child? "layer" with
  | none => .pure none
  | some layer => draftStatement footprint.kind layer

/-- The layer comes first, then the groups. -/
def draftBody (footprint : Node) : Draft (Option Statement × List Section) :=
  (draftLayer footprint).bind fun layer =>
    (draftSections footprint).bind fun sections => .pure (layer, sections)

/-- The kind of the footprint and its own atoms, without the closing parenthesis. -/
def header (footprint : Node) : List Fragment :=
  .punct "(" :: .source footprint.kind ::
    footprint.atoms.flatMap fun atom => [.punct " ", .source atom]

/-- The side of the footprint's own layer. -/
def sideOf (footprint : Node) : Side :=
  (((footprint.child? "layer").bind Node.firstAtom?).map
    fun layer => Layer.side (unquote layer)).getD .front

def convert (config : Config) (footprint : Node) : Except ConvertError Conversion :=
  if footprint.kind == "footprint" || footprint.kind == "module" then
    let draft := draftBody footprint
    match draft.outcome with
    | .error error => .error (.misshapen error)
    | .ok (layer, sections) =>
      let namer := NetNamer.nameAll ⟨config, []⟩ draft.pads
      .ok ⟨⟨config.designator, sideOf footprint, namer.paramNames, header footprint, layer,
        sections⟩, namer⟩
  else .error (.notAFootprint footprint.kind)

def convertText (config : Config) (text : String) : Except ConvertError Conversion :=
  match Sexpr.parse text with
  | .error error => .error (.parse error)
  | .ok footprint => convert config footprint

/-- The identifiers of a footprint's connected pads, each once, in source order. -/
def scanPads (footprint : Node) : Except Misshapen (List String) :=
  let pads := footprint.nodes.filter (·.kind == "pad")
  match pads.mapM Node.firstAtom? with
  | none => .error ⟨"pad", .padIdentifier⟩
  | some names => .ok ((names.map unquote).filter (· != "")).eraseDups

end FootprintTemplate
