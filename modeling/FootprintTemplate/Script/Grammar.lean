import FootprintTemplate.Script.Grammar.Statement

/-! Whole scripts. A script that is not well formed is not read. -/
namespace FootprintTemplate.Script

/-- Readers for parts that are nested up to a depth. -/
def grammar : Nat → Grammar
  | 0 => ⟨fun _ => failure, fun _ => failure, fun _ _ => failure, fun _ => failure,
    fun _ _ => failure, fun _ _ => failure⟩
  | depth + 1 => {
      assignment := fun setting cursor => readAssignment (grammar depth) setting cursor
      unary := fun setting cursor =>
        readUnary (grammar depth) (readClass (grammar depth) true) setting cursor
      binary := fun level setting cursor => readBinary (grammar depth) level setting cursor
      member := fun setting cursor =>
        readOperand (grammar depth) (readClass (grammar depth) true) false setting cursor
      target := fun isDeclared setting cursor =>
        readTarget (grammar depth) (readClass (grammar depth) true) isDeclared setting cursor
      statement := fun declares setting cursor =>
        readStatement (grammar depth) declares setting cursor }

/-- A script: its statements, and the names it declares for the whole of it. -/
structure Program where
  strict : Bool
  body : List Tree
  hoisted : List String

/-- Reads statements up to the end of the text. -/
def readProgram (g : Grammar) (setting : Setting) : Reader Program := do
  let strictHere ← isStrictAhead
  let setting := { setting with strict := setting.strict || strictHere }
  let (body, hoisted) ← Reader.declaring <| Reader.items do
    if (← Reader.token) == .finish then return none
    return some (← g.statement true setting)
  Reader.require (isBody body hoisted [] && (← get).secrets.isEmpty)
  return ⟨setting.strict, body, hoisted⟩

def parseIn (setting : Setting) (text : List Char) : Option Program :=
  ((readProgram (grammar maxParts) setting).run ⟨lexemes maxParts {} text, [], []⟩).map Prod.fst

def parse (text : List Char) : Option Program :=
  parseIn {} text

end FootprintTemplate.Script
