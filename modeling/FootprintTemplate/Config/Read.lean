import FootprintTemplate.Config
import FootprintTemplate.Text.Blank
import FootprintTemplate.Yaml.Document

/-! Settings from a YAML text. Settings that are left out keep their defaults. A text is refused if
it names an unknown setting, names one twice, or gives one a value of the wrong shape. -/
namespace FootprintTemplate.Config

open Yaml (Node Scalar)

/-- A text setting takes any scalar as it is written. -/
def textOf : Node → Option String
  | .scalar _ scalar => some scalar.text
  | _ => none

def truthOf? (text : String) : Option Bool :=
  if text == "true" || text == "True" || text == "TRUE" then some true
  else if text == "false" || text == "False" || text == "FALSE" then some false
  else none

/-- The tag of truth values. -/
def truthTag : Yaml.Octets :=
  Yaml.octets "tag:yaml.org,2002:bool".toList

/-- A truth value is written without quotes, or tagged as one and written as a literal block. -/
def boolOf : Node → Option Bool
  | .scalar _ scalar =>
    let tagged := scalar.style == .literal && scalar.tag == some truthTag
    if scalar.style == .plain || tagged then truthOf? scalar.text else none
  | _ => none

/-- The members of a mapping. A missing value stands for none. -/
def membersOf : Node → Option (List (Node × Node))
  | .mapping _ members => some members
  | .scalar _ scalar => if scalar.style == .plain && scalar.text == "" then some [] else none
  | .alias _ => none

/-- A member with what its aliases stand for in the document. -/
def targets? (root : Node) (member : Node × Node) : Option (Node × Node) :=
  match root.target? member.1, root.target? member.2 with
  | some key, some value => some (key, value)
  | _, _ => none

def pairOf (member : Node × Node) : Option (String × String) :=
  match textOf member.1, textOf member.2 with
  | some pad, some net => some (pad, net)
  | _, _ => none

def overridesOf (root node : Node) : Option Overrides :=
  match (membersOf node).bind (·.mapM fun member => (targets? root member).bind pairOf) with
  | some pairs => some (Overrides.ofPairs pairs)
  | none => none

def set (root : Node) (config : Config) (name : String) (value : Node) : Option Config :=
  match name with
  | "pad_prefix" => (textOf value).map fun text => { config with padPrefix := text }
  | "prefix_number_pads_only" =>
    (boolOf value).map fun truth => { config with prefixNumberPadsOnly := truth }
  | "net_name_overrides" =>
    (overridesOf root value).map fun overrides => { config with netNameOverrides := overrides }
  | "designator" => (textOf value).map fun text => { config with designator := text }
  | _ => none

/-- Sets the settings of a mapping one after the other, each once. -/
def setAll (root : Node) (config : Config) (seen : List String) :
    List (Node × Node) → Option Config
  | [] => some config
  | member :: rest =>
    match targets? root member with
    | none => none
    | some (key, value) =>
      match textOf key with
      | none => none
      | some name =>
        if seen.contains name then none
        else match set root config name value with
          | none => none
          | some config => setAll root config (name :: seen) rest

/-- The settings of a text, or none if it is refused. -/
def read? (text : String) : Option Config :=
  if Text.isBlankText text then some {}
  else match Yaml.readStream text with
    | none => none
    | some .empty => some {}
    | some (.document root) => (membersOf root).bind (setAll root {} [])

end FootprintTemplate.Config
