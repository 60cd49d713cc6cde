import FootprintTemplate.Number.Double
import FootprintTemplate.Text.Units

/-! Scripts as trees of expressions and statements. -/
namespace FootprintTemplate.Script

open Text (Units)

inductive Constant where
  | null
  | truth (value : Bool)
  | number (value : Number.Double)
  | integer (value : Nat)
  | text (value : Units)
deriving DecidableEq

inductive UnaryOp where
  | minus
  | plus
  | complement
  | not
  | typeName
  | nothing
deriving DecidableEq

inductive BinaryOp where
  | add
  | sub
  | mul
  | div
  | rem
  | pow
  | shiftLeft
  | shiftRight
  | shiftUnsigned
  | bitAnd
  | bitOr
  | bitXor
  | equal
  | unequal
  | same
  | different
  | less
  | greater
  | lessEqual
  | greaterEqual
  | hasMember
  | isInstance
deriving DecidableEq

/-- Operators that compute their second operand only where it decides. -/
inductive LogicOp where
  | and
  | or
  /-- The second operand replaces null and undefined. -/
  | fallback
deriving DecidableEq

inductive Declared where
  /-- Belongs to the routine, wherever it is declared. -/
  | hoisted
  | changing
  | constant
deriving DecidableEq

inductive RoutineForm where
  | plain
  /-- Has no `this` of its own. -/
  | arrow
  | method
  | maker
  /-- Makes objects of a class that extends another one. -/
  | derivedMaker
deriving DecidableEq

structure RoutineInfo where
  form : RoutineForm
  isAsync : Bool
  isGenerator : Bool
  strict : Bool
  name : Option String
  /-- The body knows the routine by its name. -/
  knowsName : Bool
  /-- Names that the body declares for the whole routine. -/
  hoisted : List String
  /-- All parameters are bare names. -/
  isSimple : Bool
deriving DecidableEq

inductive AccessorKind where
  | getter
  | setter
deriving DecidableEq

/-- Expressions, statements, and their parts. A part that may be missing is `absent` then. -/
inductive Tree where
  | absent
  | constant (value : Constant)
  | name (name : String)
  | this
  | newTarget
  /-- Text, then values with the text after each. -/
  | template (first : Units) (rest : List Tree)
  | stretch (value : Tree) (text : Units)
  | tagged (tag : Tree) (texts : List (Option Units)) (written : List Units)
    (values : List Tree)
  | regex (source flags : Units)
  | list (items : List Tree)
  | spread (values : Tree)
  | hole
  | record (members : List Tree)
  | fixedKey (text : Units)
  | computedKey (key : Tree)
  | secretKey (name : String)
  | field (key value : Tree)
  | method (key routine : Tree)
  | accessor (kind : AccessorKind) (key routine : Tree)
  | prototype (value : Tree)
  | routine (info : RoutineInfo) (parameters : List Tree) (rest : Tree) (body : List Tree)
  | ofClass (name : Option String) (knowsName : Bool) (parent maker : Tree)
    (members : List Tree)
  | static (member : Tree)
  /-- The routine computes the value of the member. -/
  | ownField (key value : Tree)
  | ownBlock (routine : Tree)
  | enclosed (inner : Tree)
  | unary (op : UnaryOp) (operand : Tree)
  | delete (operand : Tree)
  /-- Adds one or takes one away; the value is that before or after. -/
  | step (up before : Bool) (place : Tree)
  | binary (op : BinaryOp) (left right : Tree)
  | logic (op : LogicOp) (left right : Tree)
  | choice (test yes no : Tree)
  | assign (target value : Tree)
  | update (op : BinaryOp) (place value : Tree)
  | logicUpdate (op : LogicOp) (place value : Tree)
  | sequence (first second : Tree)
  | member (owner key : Tree)
  | secretMember (owner : Tree) (name : String)
  | superMember (key : Tree)
  | hasSecret (name : String) (owner : Tree)
  | call (callee : Tree) (arguments : List Tree)
  | superCall (arguments : List Tree)
  | make (callee : Tree) (arguments : List Tree)
  /-- Ends with undefined where a link in it meets null or undefined. -/
  | chain (links : Tree)
  | link (owner : Tree)
  | yielded (value : Tree) (all : Bool)
  | awaited (value : Tree)
  | imported (name : Tree)
  /-- Where the parts of a record are put, and the rest of them. -/
  | recordTarget (fields : List Tree) (rest : Tree)
  | listTarget (elements : List Tree) (rest : Tree)
  /-- A target and the value that it takes instead of undefined. -/
  | element (target default : Tree)
  | declare (kind : Declared) (items : List Tree)
  /-- A target that is declared and its first value. -/
  | item (target value : Tree)
  | empty
  | expression (value : Tree)
  | block (body : List Tree)
  | branch (test yes no : Tree)
  | whileLoop (test body : Tree)
  | untilLoop (body test : Tree)
  | loop (start test update body : Tree)
  | keysLoop (target owner body : Tree)
  | valuesLoop (target values body : Tree)
  | next (label : Option String)
  | leave (label : Option String)
  | giveBack (value : Tree)
  | fail (value : Tree)
  | switch (value : Tree) (cases : List Tree)
  | switchCase (test : Tree) (body : List Tree)
  | guarded (body handler finalizer : Tree)
  | handler (target body : Tree)
  | labelled (label : String) (body : Tree)
  | within (owner body : Tree)

instance : Inhabited Tree := ⟨.absent⟩

namespace Tree

/-- Without the parentheses around it. -/
def bare : Tree → Tree
  | .enclosed inner => inner.bare
  | tree => tree

def isAbsent : Tree → Bool
  | .absent => true
  | _ => false

/-- A routine or class without a name takes that of its place. -/
def named (name : String) : Tree → Tree
  | .enclosed inner => inner.named name
  | .routine info parameters rest body =>
    .routine { info with name := info.name.or (some name) } parameters rest body
  | .ofClass own knowsName parent maker members =>
    .ofClass (own.or (some name)) knowsName parent maker members
  | tree => tree

mutual
def boundNames : Tree → List String
  | .name own => [own]
  | .element target _ | .item target _ => target.boundNames
  | .field _ part => part.boundNames
  | .recordTarget parts rest | .listTarget parts rest => allBoundNames parts ++ rest.boundNames
  | _ => []

def allBoundNames : List Tree → List String
  | [] => []
  | tree :: rest => tree.boundNames ++ allBoundNames rest
end

/-- Without the labels before it. -/
def unlabelled : Tree → Tree
  | .labelled _ body => body.unlabelled
  | tree => tree

end Tree

structure Routine where
  info : RoutineInfo
  parameters : List Tree
  rest : Tree
  body : List Tree

namespace Routine

def tree (routine : Routine) : Tree :=
  .routine routine.info routine.parameters routine.rest routine.body

/-- The number of parameters before the first with a default. -/
def arity (routine : Routine) : Nat :=
  (routine.parameters.takeWhile fun
    | .element _ default => default.isAbsent
    | _ => false).length

end Routine

end FootprintTemplate.Script
