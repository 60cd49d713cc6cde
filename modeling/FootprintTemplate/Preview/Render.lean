import FootprintTemplate.Convert
import FootprintTemplate.Preview.Session

/-! Placing a module. Its text is filled in directly; only where the headings hold more than
comments, the module runs as a script. -/
namespace FootprintTemplate.Preview

/-- A member that names the prototype of an object instead of being one of its own. -/
def prototypeName : String :=
  "__proto__"

/-- The declaration of a net in a module, once its default is filled in. -/
def netDeclaration (default : Option String) : Value :=
  .record [("type", .text "net"), ("value", (default.map .text).getD .null)]

/-- The parameters that a module declares. A net takes the place of another parameter of its
name. -/
def declaredParams (m : Module) (defaults : List (String × String)) : List (String × Value) :=
  let nets := m.nets.filter (· != prototypeName)
  let own : List (String × Value) :=
    [("designator", .text m.designator), ("side", .text m.side.letter)]
  own.filter (fun param => !nets.contains param.1) ++
    nets.map fun net => (net, netDeclaration (defaults.lookup net))

structure Loaded where
  conversion : Conversion
  params : List (String × Param)
  /-- The script, for a module that runs as one. -/
  session : Option Session := none

/-- The default of a net as script text. -/
def defaultChars (defaults : List (String × String)) (net : String) : List Char :=
  match defaults.lookup net with
  | some text => Script.stringLiteral text.toList
  | none => "null".toList

def loadScript (conversion : Conversion) (defaults : List (String × String)) :
    Except PreviewError Loaded :=
  let code := conversion.written.codeWith conversion.namer.netOf (defaultChars defaults)
  (Session.load code).map fun (params, session) => ⟨conversion, params, some session⟩

def load (conversion : Conversion) (defaults : List (String × String)) :
    Except PreviewError Loaded :=
  if !conversion.written.isEnclosed then loadScript conversion defaults
  else if !conversion.written.isScript then .error .invalidScript
  else match readParams (.record (declaredParams conversion.written defaults)) with
    | .error error => .error (.params error)
    | .ok params => .ok { conversion, params }

/-- The texts of the nets, numbered in the order of the parameters. -/
def netTexts (loaded : Loaded) (placement : Placement) : List (String × List Char) :=
  (boardNets placement.nets [] loaded.params).map fun (name, net) => (name, net.text)

/-- What a net of this name prints where the module reads it. -/
def memberText (placement : Placement) (texts : List (String × List Char)) (net : String) :
    List Char :=
  match texts.lookup net with
  | some text => text
  | none =>
    if net == "side" then placement.side.toList
    else if net == prototypeName then "[object Object]".toList
    else "undefined".toList

def filling (loaded : Loaded) (placement : Placement) (flip : Bool) : Template.Filling :=
  let texts := netTexts loaded placement
  { flip
    rotation := match texts.lookup "r" with
      | some text => .inr text
      | none => .inl placement.r
    net := fun pad => memberText placement texts (loaded.conversion.namer.netOf pad) }

/-- The line that says where the footprint is placed. A net of that name takes its place. -/
def placeLine (loaded : Loaded) (placement : Placement) : List Char :=
  ((netTexts loaded placement).lookup "at").getD (atChars placement)

def fillIn (loaded : Loaded) (placement : Placement) : Except PreviewError String :=
  let m := loaded.conversion.written
  let flip := placement.side == m.side.opposite.letter
  if !flip && placement.side != m.side.letter then .error (.unsupportedSide placement.side)
  else .ok (String.ofList (m.fill (placeLine loaded placement) (filling loaded placement flip)))

/-- Places a module; the text of the footprint, and the module for the placements to come. -/
def place (loaded : Loaded) (placement : Placement) : Except PreviewError String × Loaded :=
  match loaded.session with
  | none => (fillIn loaded placement, loaded)
  | some session =>
    let (text, session) := session.place loaded.params placement
    (text, { loaded with session := some session })

def render (loaded : Loaded) (placement : Placement) : Except PreviewError String :=
  (place loaded placement).1

def renderAll (loaded : Loaded) : List Placement → List (Except PreviewError String)
  | [] => []
  | placement :: rest =>
    let (text, loaded) := place loaded placement
    text :: renderAll loaded rest

end FootprintTemplate.Preview
