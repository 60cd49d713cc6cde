import FootprintTemplate.Script.Library.Native

/-! Objects that hold the text they are printed as. -/
namespace FootprintTemplate.Script.Library.Labels

open Run
open Text (Units units)

def textKey : Key :=
  .ofString "str"

/-- The text that `this` holds. -/
def held (call : Call) : Run Value :=
  match call.this with
  | .object id => Member.get call.machine id textKey
  | _ => return .text []

def family : Family where
  name := "Label"
  isGlobal := false
  own := [⟨"toString", 0, held⟩]

end FootprintTemplate.Script.Library.Labels
