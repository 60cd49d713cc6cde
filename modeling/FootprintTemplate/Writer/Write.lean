import FootprintTemplate.Layer
import FootprintTemplate.Number.Literal
import FootprintTemplate.Sexpr.Node
import FootprintTemplate.Writer.Draft
import FootprintTemplate.Writer.Rule

/-! Template text of a node. Each rule builds the text of a node from the drafts of its items;
what hangs on the face of the board becomes a place to be filled in. -/
namespace FootprintTemplate.Writer

open Sexpr (Item Node unquote)

/-- An item of a node and the draft of its own text. -/
structure Part where
  item : Item
  draft : Text

namespace Part

/-- The item is a node that is left out under a parent of this kind. -/
def isDropped (parent : String) (part : Part) : Bool :=
  match part.item with
  | .atom _ => false
  | .node kind _ => (Rule.select (some parent) kind).disposition == .skip

/-- The item after a space. An item that is left out leaves no space behind. -/
def placed (parent : String) (part : Part) : Text :=
  if part.isDropped parent then .fragments [] else .punct " " ++ part.draft

def atom? (part : Part) : Option String :=
  part.item.atom?

def number? (part : Part) : Option String :=
  part.atom?.filter Number.isNumber

def isKind (kind : String) (part : Part) : Bool :=
  match part.item with
  | .atom _ => false
  | .node other _ => other == kind

end Part

def placedAll (parent : String) (parts : List Part) : Text :=
  .concat (parts.map (Part.placed parent))

def writeGeneric (kind : String) (parts : List Part) : Text :=
  .punct "(" ++ .source kind ++ placedAll kind parts ++ .punct ")"

/-- The net of a pad is asked for before its items are written. A pad without an identifier has
no net. -/
def writePad (kind : String) : List Part → Text
  | ⟨.atom text, _⟩ :: rest =>
    let pad := unquote text
    let opening : Text := .punct "(pad \"" ++ .source pad ++ .punct "\"" ++ placedAll kind rest
    if pad == "" then opening ++ .punct ")"
    else (Draft.ask pad).bind fun _ => opening ++ .fragments [.punct " ", .net pad, .punct ")"]
  | _ => .fail kind .padIdentifier

def writeXy (kind : String) (parts : List Part) : Text :=
  match parts.map Part.number? with
  | [some x, some y] =>
    .fragments
      [.punct "(", .source kind, .punct " ", .coordinate x, .punct " ", .source y, .punct ")"]
  | _ => .fail kind .twoNumbers

/-- A layer's name, chosen whole by the face if it is tied to one. -/
def layerName (name : String) : Template.Fragment :=
  match Layer.swapFace? name with
  | some swapped => .faced swapped name
  | none => .source name

def writeLayer (kind : String) : List Part → Text
  | ⟨.atom text, _⟩ :: rest =>
    .fragments [.punct "(layer ", .punct "\"", layerName (unquote text), .punct "\""] ++
      placedAll kind rest ++ .punct ")"
  | _ => .fail kind .layerName

/-- A layer's name, of which only the letter of the face is chosen. -/
def layerParts (name : String) : List Template.Fragment :=
  match name.toList with
  | 'F' :: '.' :: rest => [.faced "B" "F", .source (String.ofList ('.' :: rest))]
  | 'B' :: '.' :: rest => [.faced "F" "B", .source (String.ofList ('.' :: rest))]
  | _ => [.source name]

def layerEntry (name : String) : List Template.Fragment :=
  .punct " \"" :: (layerParts name ++ [.punct "\""])

def writeLayers (kind : String) (parts : List Part) : Text :=
  match parts.mapM Part.atom? with
  | some names =>
    .punct "(layers" ++ .fragments (names.flatMap fun text => layerEntry (unquote text)) ++
      .punct ")"
  | none => .fail kind .onlyLayerNames

/-- A coordinate that is plainly zero is the same on both faces. -/
def atCoordinate (x : String) : Template.Fragment :=
  if Number.isPlainZero x then .source x else .coordinate x

def atText (kind x y : String) (delta : Option String) (flags : List Part) : Text :=
  if flags.all fun flag => flag.atom?.isSome then
    .fragments
        [.punct "(at ", atCoordinate x, .punct " ", .source y, .punct " ", .rotation delta] ++
      placedAll kind flags ++ .punct ")"
  else .fail kind .placement

/-- An atom that is no number. The flags of a placement start with one. -/
def isFlag (part : Part) : Bool :=
  match part.atom? with
  | some text => !Number.isNumber text
  | none => false

/-- Two or three numbers, then atoms of which the first is no number. -/
def writeAt (kind : String) (parts : List Part) : Text :=
  let flags := parts.dropWhile (!isFlag ·)
  match (parts.takeWhile (!isFlag ·)).map Part.number? with
  | [some x, some y] => atText kind x y none flags
  | [some x, some y, some delta] => atText kind x y (some delta) flags
  | _ => .fail kind .placement

/-- Effects without a justification get one, for the mirror keyword to stand in. -/
def writeEffects (kind : String) (parts : List Part) : Text :=
  .punct "(effects" ++ placedAll kind parts ++
    (if parts.any (Part.isKind "justify") then .fragments []
     else .fragments [.punct " ", .punct "(justify", .mirrorFlag false, .punct ")"]) ++
    .punct ")"

def isMirror (part : Part) : Bool :=
  part.atom? == some "mirror"

/-- The mirror keyword is taken out and stands last, where it depends on the face. -/
def writeJustify (kind : String) (parts : List Part) : Text :=
  .punct "(justify" ++ placedAll kind (parts.filter (!isMirror ·)) ++
    .fragments [.mirrorFlag (parts.any isMirror), .punct ")"]

/-- The text of a node by its rule, from its kind and its parts. -/
def compose (rule : Rule) (kind : String) (parts : List Part) : Text :=
  match rule with
  | .pad => writePad kind parts
  | .xy => writeXy kind parts
  | .layer => writeLayer kind parts
  | .layers => writeLayers kind parts
  | .at => writeAt kind parts
  | .effects => writeEffects kind parts
  | .justify => writeJustify kind parts
  | .padNet | .skip => .fragments []
  | .modelOffset | .property | .fallback => writeGeneric kind parts

mutual
def writeItem (parent : Option String) : Item → Text
  | .atom text => .source text
  | .node kind items => compose (Rule.select parent kind) kind (partsOf kind items)

def partsOf (kind : String) : List Item → List Part
  | [] => []
  | item :: rest => ⟨item, writeItem (some kind) item⟩ :: partsOf kind rest
end

def write (parent : Option String) (node : Node) : Text :=
  writeItem parent node.item

end FootprintTemplate.Writer
