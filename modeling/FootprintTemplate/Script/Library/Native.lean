import FootprintTemplate.Script.Evaluate.Statement

/-! Routines of the library, and the families that they come in. -/
namespace FootprintTemplate.Script

open Run
open Text (Units units)

/-- A call of a routine of the library. -/
structure Call where
  machine : Machine
  this : Value
  arguments : List Value
  /-- The routine for which an object is made. -/
  newTarget : Option Nat

namespace Call

def argument (call : Call) (i : Nat) : Value :=
  (call.arguments[i]?).getD .undefined

def text (call : Call) (i : Nat) : Run Units :=
  Coerce.toText call.machine (call.argument i)

def number (call : Call) (i : Nat) : Run Number.Double :=
  Coerce.toNumber call.machine (call.argument i)

def whole (call : Call) (i : Nat) : Run Int :=
  Coerce.toWhole call.machine (call.argument i)

/-- `this` as an object. -/
def object (call : Call) : Run Nat :=
  Coerce.toObject call.this

/-- `this` as a text. -/
def thisText (call : Call) : Run Units :=
  if call.this.isNothing then failType "cannot convert null or undefined to Object"
  else Coerce.toText call.machine call.this

/-- An argument that has to be a routine. -/
def routine (call : Call) (i : Nat) : Run Value := do
  if ← Coerce.isCallable (call.argument i) then return call.argument i
  else failType "argument is not a callable function"

/-- The base of the object that is made. -/
def base (call : Call) (origin : Origin) : Run Nat :=
  match call.newTarget with
  | some maker => Routines.prototypeOf call.machine maker origin
  | none => return origin.id

/-- An object of a kind, made for the routine that asked for it. -/
def make (call : Call) (origin : Origin) (kind : Kind) : Run Value := do
  return .object (← allocate { prototype := some (← call.base origin), kind })

end Call

/-- A routine of the library: its name, the number of its parameters, and what it does. -/
structure Native where
  name : String
  arity : Nat
  run : Call → Run Value

/-- The scope in which scripts run. -/
def Library.scriptScope : Nat := 1

/-- Routines around one kind of objects. -/
structure Family where
  name : String
  /-- The routine that makes the objects. -/
  maker : Option Native := none
  /-- The base of the objects. -/
  base : Option Origin := none
  /-- The object in which its own routines stand, if it is no new one. -/
  owner : Option Origin := none
  /-- The family has a name that scripts know. -/
  isGlobal : Bool := true
  constants : List (String × Value) := []
  sharedConstants : List (String × Value) := []
  own : List Native := []
  shared : List Native := []
  /-- Members of the base that are computed. -/
  computed : List Native := []
  /-- The text that the base gives for the kind of its objects. -/
  tag : Option String := none

end FootprintTemplate.Script
