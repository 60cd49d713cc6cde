/-! Parameters that a module declares. A declaration is a record with a type and a default, or a
bare default. -/
namespace FootprintTemplate.Preview

/-- Values of a declaration. Numbers, truth values and lists are all refused alike. -/
inductive Value where
  | null
  | text (text : String)
  | record (members : List (String × Value))
  | other
deriving Inhabited

inductive ParamKind where
  | net
  | string
deriving DecidableEq, Repr

/-- A declared parameter. A net without a default is required, unless it is declared bare. -/
structure Param where
  kind : ParamKind
  required : Bool
  default : Option String
deriving DecidableEq, Repr

inductive Fault where
  | missingType
  | typeNotText
  | unknownType
  | defaultMismatch
  | unsupportedDefault
deriving DecidableEq, Repr

def Fault.text : Fault → String
  | missingType => "missing type"
  | typeNotText => "type must be string"
  | unknownType => "unknown type"
  | defaultMismatch => "default type mismatch"
  | unsupportedDefault => "unsupported default type"

inductive ParamError where
  | notARecord
  | invalid (name : String) (fault : Fault)
deriving DecidableEq, Repr

def ParamError.message : ParamError → String
  | notARecord => "invalid template params: expected object"
  | invalid name fault => "invalid template param \x60" ++ name ++ "\x60: " ++ fault.text

def ParamKind.read : Option Value → Except Fault ParamKind
  | none => .error .missingType
  | some (.text "net") => .ok net
  | some (.text "string") => .ok string
  | some (.text _) => .error .unknownType
  | some _ => .error .typeNotText

/-- A default is a text; null stands for none. -/
def readDefault : Option Value → Except Fault (Option String)
  | none | some .null => .ok none
  | some (.text text) => .ok (some text)
  | some _ => .error .defaultMismatch

def Param.read : Value → Except Fault Param
  | .null => .ok ⟨.net, false, none⟩
  | .text text => .ok ⟨.string, false, some text⟩
  | .other => .error .unsupportedDefault
  | .record members => do
    let kind ← ParamKind.read (members.lookup "type")
    let default ← readDefault (members.lookup "value")
    .ok ⟨kind, default.isNone, default⟩

def readMember (member : String × Value) : Except ParamError (String × Param) :=
  match Param.read member.2 with
  | .error fault => .error (.invalid member.1 fault)
  | .ok param => .ok (member.1, param)

def byName {α : Type} (members : List (String × α)) : List (String × α) :=
  members.mergeSort fun first second => first.1 ≤ second.1

/-- The parameters of a module in the order of their names. The first bad one is reported. -/
def readParams : Value → Except ParamError (List (String × Param))
  | .record members => (byName members).mapM readMember
  | _ => .error .notARecord

def netParams (params : List (String × Param)) : List String :=
  (params.filter (·.2.kind == .net)).map Prod.fst

end FootprintTemplate.Preview
