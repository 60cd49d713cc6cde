/-! Rules by which nodes are written. The kind of a node and the kind of the node around it choose
the rule. -/
namespace FootprintTemplate.Writer

/-- What becomes of the text that a rule writes. -/
inductive Disposition where
  | emit
  /-- Nothing is written, not even the space before the node. -/
  | skip
  /-- A statement of the module that is commented out. -/
  | disabled
deriving DecidableEq, Repr

inductive Rule where
  | pad
  | xy
  | layer
  | layers
  /-- The offset of a 3D model, spelt as a placement. -/
  | modelOffset
  | at
  | effects
  | justify
  /-- The net that the source gives a pad. The net of the module takes its place. -/
  | padNet
  | skip
  | property
  | fallback
deriving DecidableEq, Repr

namespace Rule

def name : Rule → String
  | pad => "pad"
  | xy => "xy"
  | layer => "layer"
  | layers => "layers"
  | modelOffset => "model offset"
  | .at => "at"
  | effects => "effects"
  | justify => "justify"
  | padNet => "pad net"
  | skip => "skip"
  | property => "property"
  | fallback => "fallback"

def disposition : Rule → Disposition
  | padNet | skip => .skip
  | property => .disabled
  | _ => .emit

/-- Nodes that hold one point. -/
def coordinateKinds : List String :=
  ["start", "end", "mid", "center", "xy"]

/-- Nodes that tell where a file came from. -/
def provenanceKinds : List String :=
  ["version", "uuid", "group", "tedit", "tstamp", "generator", "generator_version"]

/-- The rules in the order in which they are tried. -/
def table : List Rule :=
  [pad, xy, layer, layers, modelOffset, .at, effects, justify, padNet, skip, property, fallback]

/-- The rule takes a node of this kind in a parent of that kind. -/
def takes (rule : Rule) (parent : Option String) (kind : String) : Bool :=
  match rule with
  | pad => kind == "pad"
  | xy => coordinateKinds.contains kind
  | layer => kind == "layer"
  | layers => kind == "layers"
  | modelOffset => kind == "at" && parent == some "model"
  | .at => kind == "at"
  | effects => kind == "effects"
  | justify => kind == "justify"
  | padNet => kind == "net" && parent == some "pad"
  | skip => provenanceKinds.contains kind
  | property => kind == "property"
  | fallback => true

def first? (parent : Option String) (kind : String) : Option Rule :=
  table.find? (·.takes parent kind)

def select (parent : Option String) (kind : String) : Rule :=
  if kind == "pad" then pad
  else if coordinateKinds.contains kind then xy
  else if kind == "layer" then layer
  else if kind == "layers" then layers
  else if kind == "at" then if parent == some "model" then modelOffset else .at
  else if kind == "effects" then effects
  else if kind == "justify" then justify
  else if kind == "net" && parent == some "pad" then padNet
  else if provenanceKinds.contains kind then skip
  else if kind == "property" then property
  else fallback

theorem first?_eq (parent : Option String) (kind : String) :
    first? parent kind = some (select parent kind) := by
  have step (rule : Rule) (rest : List Rule) : (rule :: rest).find? (·.takes parent kind) =
      if rule.takes parent kind then some rule else rest.find? (·.takes parent kind) := by
    rw [List.find?_cons]
    cases rule.takes parent kind <;> rfl
  simp only [first?, table, step]
  simp only [takes, select, apply_ite some]
  cases kind == "at" <;> cases parent == some "model" <;> rfl

/-- Only the net of a pad, the nodes that tell where a file came from and the properties are not
written as they are. -/
theorem disposition_select (parent : Option String) (kind : String) :
    (select parent kind).disposition =
      if provenanceKinds.contains kind || kind == "net" && parent == some "pad" then .skip
      else if kind == "property" then .disabled
      else .emit := by
  by_cases place : kind = "at"
  · subst place
    rw [show select parent "at" = if parent == some "model" then modelOffset else .at from rfl]
    cases parent == some "model" <;> rfl
  by_cases shaped : kind ∈ ["pad", "layer", "layers", "effects", "justify"] ++ coordinateKinds
  · simp only [coordinateKinds, List.cons_append, List.nil_append, List.mem_cons,
      List.not_mem_nil, or_false] at shaped
    obtain rfl | rfl | rfl | rfl | rfl | rfl | rfl | rfl | rfl | rfl := shaped <;> rfl
  · simp only [List.mem_append, List.mem_cons, List.not_mem_nil, or_false, not_or] at shaped
    obtain ⟨⟨pad, layer, layers, effects, justify⟩, coordinates⟩ := shaped
    have rest : select parent kind =
        if kind == "net" && parent == some "pad" then padNet
        else if provenanceKinds.contains kind then skip
        else if kind == "property" then property
        else fallback := by
      simp [select, pad, layer, layers, place, effects, justify, coordinates]
    rw [rest]
    cases provenanceKinds.contains kind <;> cases kind == "net" && parent == some "pad" <;>
      cases kind == "property" <;> rfl

end Rule

end FootprintTemplate.Writer
