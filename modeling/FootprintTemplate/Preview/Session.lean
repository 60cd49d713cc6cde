import FootprintTemplate.Preview.Placement
import FootprintTemplate.Script.Interpreter

/-! Modules that run as scripts. A module is loaded once; what its placements change stays for
those after them. -/
namespace FootprintTemplate.Preview

open Script (Key Run Slot Stop Store)
open Script.Interpreter (full)
open Text (units)

structure Session where
  store : Store
  /-- The routine that builds the footprint. -/
  body : Script.Value

namespace Session

/-- The script of a module, with the object that takes what it exports. -/
def wrapped (code : String) : String :=
  "globalThis.module = \x7b exports: \x7b\x7d \x7d; globalThis.exports = module.exports;\n" ++
    code ++ "\nmodule.exports;"

/-- A member of an error as text, with a default. -/
def errorPart (id : Nat) (name default : String) : Run String := do
  match ← Script.Member.get full id (.ofString name) with
  | .text own => return Text.ofUnits own
  | _ => return default

def thrownText (value : Script.Value) : Run String := do
  match value with
  | .text own => return "\"" ++ Text.ofUnits own ++ "\""
  | .object id =>
    if (← Script.Run.object id).kind matches .failure then
      let name ← errorPart id "name" "Error"
      let message ← errorPart id "message" ""
      return if name == "" then message else if message == "" then name
        else name ++ ": " ++ message
    else return "object"
  | _ => return "value"

def causeOf (stop : Stop) (store : Store) : String :=
  match stop with
  | .thrown value =>
    match thrownText value store with
    | (.ok text, _) => text
    | (.error _, _) => "error"
  | _ => "limit"

/-- What a script exports, as a declaration. Members that are computed are null. -/
def exported : Nat → Script.Value → Run Value
  | 0, _ => throw .exhausted
  | fuel + 1, value => do
    match value with
    | .undefined | .symbol _ | .integer _ => Script.Run.failType "cannot convert value"
    | .null => return .null
    | .text own => return .text (Text.ofUnits own)
    | .truth _ | .number _ => return .other
    | .object id =>
      let object ← Script.Run.object id
      match object.kind with
      | .list length _ =>
        for i in List.range length do
          match object.slot? (.index i) with
          | some (.data value _ _ _) => let _ ← exported fuel value
          | _ => pure ()
        return .other
      | _ =>
        let members ← (object.ownKeys).mapM fun key => do
          match key.units?, object.own? key with
          | some name, some (.data value _ _ _) =>
            return (Text.ofUnits name, ← exported fuel value)
          | some name, _ => return (Text.ofUnits name, .null)
          | none, _ => Script.Run.failType "cannot convert symbol"
        return .record members

/-- Runs a script; the parameters that it declares, and the routine that builds the footprint. -/
def start (program : Script.Program) : Run (Value × Script.Value) := do
  match ← Script.Interpreter.run program with
  | .object id =>
    let params ← match ← Script.Member.get full id (.ofString "params") with
      | .undefined | .null => pure Value.null
      | value => exported 1000 value
    return (params, ← Script.Member.get full id (.ofString "body"))
  | _ => Script.Run.failType "module.exports must be an object"

def load (code : String) : Except PreviewError (List (String × Param) × Session) :=
  match Script.parse (wrapped code).toList with
  | none => .error .invalidScript
  | some program =>
    match start program Script.Library.startStore with
    | (.error stop, store) => .error (.failed (causeOf stop store))
    | (.ok (params, body), store) =>
      match readParams params with
      | .error error => .error (.params error)
      | .ok params => .ok (params, ⟨store, body⟩)

/-- What a parameter holds when the footprint is placed. -/
def memberValue (nets : List (String × BoardNet)) (name : String) (param : Param) :
    Run Script.Value :=
  match nets.lookup name with
  | some net =>
    Script.Library.makeLabel [("name", .ofString net.name), ("index", .ofNat net.index)]
      (Text.unitsOfChars net.text)
  | none =>
    return match param.default with
      | some text => .ofString text
      | none => .undefined

/-- The argument of the routine: the place, and after it the parameters but for the side. -/
def argument (params : List (String × Param)) (placement : Placement) : Run Script.Value := do
  let nets := boardNets placement.nets [] params
  let members ← (params.filter (·.1 != "side")).mapM fun (name, param) => do
    return (name, ← memberValue nets name param)
  let first : List (String × Script.Value) :=
    [("at", .text (Text.unitsOfChars (atChars placement))), ("r", .number placement.r),
      ("rot", .number placement.r), ("side", .ofString placement.side)]
  let object : Script.Object := { prototype := some Script.Origin.object.id }
  return .object (← Script.Run.allocate ((first ++ members).foldl
    (fun object (name, value) => object.put (.ofString name) (Slot.ordinary value)) object))

def build (body : Script.Value) (params : List (String × Param)) (placement : Placement) :
    Run String := do
  let argument ← argument params placement
  match ← full.call body .undefined [argument] with
  | .text text =>
    match Text.ofUnits? text with
    | some text => return text
    | none => Script.Run.failType "footprint text is not valid"
  | _ => Script.Run.failType "footprint body must return a string"

/-- Places the module, and keeps what that changes. -/
def place (session : Session) (params : List (String × Param)) (placement : Placement) :
    Except PreviewError String × Session :=
  match build session.body params placement session.store with
  | (.ok text, store) => (.ok text, { session with store })
  | (.error stop, store) => (.error (.failed (causeOf stop store)), { session with store })

end Session

end FootprintTemplate.Preview
