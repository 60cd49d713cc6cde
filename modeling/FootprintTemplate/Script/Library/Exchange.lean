import FootprintTemplate.Number.Places
import FootprintTemplate.Script.Library.Objects

/-! Values written as text and read back. -/
namespace FootprintTemplate.Script.Library.Exchange

open Number (Double)
open Run
open Text (Units units)

def malformed {α : Type} : Run α :=
  fail .grammar "the text is no value"

def skipBlanks (text : Units) : Units :=
  text.dropWhile fun u => u == 32 || u == 9 || u == 10 || u == 13

/-- Reads up to the closing quote. -/
def readText : Nat → Units → Run (Units × Units)
  | 0, _ => malformed
  | _, [] => malformed
  | fuel + 1, unit :: rest =>
    if unit == 34 then return ([], rest)
    else if unit < 32 then malformed
    else if unit != 92 then do
      let (text, rest) ← readText fuel rest
      return (unit :: text, rest)
    else
      let go (unit : UInt16) (rest : Units) : Run (Units × Units) := do
        let (text, rest) ← readText fuel rest
        return (unit :: text, rest)
      match rest with
      | 34 :: rest => go 34 rest
      | 92 :: rest => go 92 rest
      | 47 :: rest => go 47 rest
      | 98 :: rest => go 8 rest
      | 102 :: rest => go 12 rest
      | 110 :: rest => go 10 rest
      | 114 :: rest => go 13 rest
      | 116 :: rest => go 9 rest
      | 117 :: a :: b :: c :: d :: rest =>
        let digits := [a, b, c, d].map fun u => Char.ofNat u.toNat
        if digits.all isHexDigit then go (valueIn 16 digits).toUInt16 rest else malformed
      | _ => malformed

def isDigit (unit : UInt16) : Bool :=
  48 ≤ unit && unit ≤ 57

/-- The number at the start of a text. -/
def readNumber? (text : Units) : Option (Double × Units) :=
  let (negative, rest) := match text with
    | 45 :: rest => (true, rest)
    | text => (false, text)
  let whole := rest.takeWhile isDigit
  let rest := rest.drop whole.length
  let isWhole := match whole with
    | [] => false
    | [_] => true
    | first :: _ => first != 48
  if !isWhole then none
  else
    let fraction? := match rest with
      | 46 :: rest =>
        let digits := rest.takeWhile isDigit
        if digits.isEmpty then none else some (digits, rest.drop digits.length)
      | rest => some ([], rest)
    fraction?.bind fun (fraction, rest) =>
      let exponent? : Option (Int × Units) := match rest with
        | e :: rest =>
          if e == 101 || e == 69 then
            let (minus, rest) := match rest with
              | 45 :: rest => (true, rest)
              | 43 :: rest => (false, rest)
              | rest => (false, rest)
            let digits := rest.takeWhile isDigit
            if digits.isEmpty then none
            else
              let n : Int := digits.foldl (fun n u => 10 * n + (u.toNat - 48)) (0 : Nat)
              some (if minus then -n else n, rest.drop digits.length)
          else some (0, e :: rest)
        | [] => some (0, [])
      exponent?.map fun (exponent, rest) =>
        let digits := (whole ++ fraction).foldl (fun n u => 10 * n + (u.toNat - 48)) 0
        (.ofDecimal negative digits (exponent - fraction.length), rest)

mutual

def readValue (m : Machine) : Nat → Units → Run (Value × Units)
  | 0, _ => throw .exhausted
  | fuel + 1, text =>
    match skipBlanks text with
    | 34 :: rest => do
      let (text, rest) ← readText (rest.length + 1) rest
      return (.text text, rest)
    | 91 :: rest => readList m fuel true [] rest
    | 123 :: rest => do
      let id ← allocate { prototype := some Origin.object.id }
      readMembers m fuel true id rest
    | 116 :: 114 :: 117 :: 101 :: rest => return (.truth true, rest)
    | 102 :: 97 :: 108 :: 115 :: 101 :: rest => return (.truth false, rest)
    | 110 :: 117 :: 108 :: 108 :: rest => return (.null, rest)
    | rest =>
      match readNumber? rest with
      | some (n, rest) => return (.number n, rest)
      | none => malformed

def readList (m : Machine) : Nat → Bool → List Value → Units → Run (Value × Units)
  | 0, _, _, _ => throw .exhausted
  | fuel + 1, first, before, text =>
    match skipBlanks text, first with
    | 93 :: rest, true => do return (← makeList [], rest)
    | text, _ => do
      let (value, rest) ← readValue m fuel text
      match skipBlanks rest with
      | 44 :: rest => readList m fuel false (value :: before) rest
      | 93 :: rest => return (← makeList (value :: before).reverse, rest)
      | _ => malformed

def readMembers (m : Machine) : Nat → Bool → Nat → Units → Run (Value × Units)
  | 0, _, _, _ => throw .exhausted
  | fuel + 1, first, id, text =>
    match skipBlanks text, first with
    | 125 :: rest, true => return (.object id, rest)
    | 34 :: rest, _ => do
      let (key, rest) ← readText (rest.length + 1) rest
      match skipBlanks rest with
      | 58 :: rest =>
        let (value, rest) ← readValue m fuel rest
        Member.create m id (.ofUnits key) value
        match skipBlanks rest with
        | 44 :: rest => readMembers m fuel false id rest
        | 125 :: rest => return (.object id, rest)
        | _ => malformed
      | _ => malformed
    | _, _ => malformed

end

/-- Lets a routine change the values, from the innermost out. -/
def revive (m : Machine) (routine : Value) : Nat → Nat → Key → Run Value
  | 0, _, _ => throw .exhausted
  | fuel + 1, owner, key => do
    let value ← Member.get m owner key
    match value with
    | .object id =>
      let keys ← if ← Coerce.isList value then
          pure ((List.range (← Coerce.lengthOf m id)).map Key.ofNat)
        else (← Member.keys m id).filterM fun key => do
          return key.isText && ((← Member.own? m id key).map Slot.isEnumerable).getD false
      for key in keys do
        match ← revive m routine fuel id key with
        | .undefined =>
          let _ ← Member.delete m id key
        | value =>
          let _ ← Member.define m id key
            { value := some value, writable := some true, enumerable := some true,
              configurable := some true }
    | _ => pure ()
    m.call routine (.object owner) [key.value, value]

def parse (call : Call) : Run Value := do
  let text ← call.text 0
  let (value, rest) ← readValue call.machine (3 * text.length + 3) text
  if !(skipBlanks rest).isEmpty then malformed
  let routine := call.argument 1
  if ← Coerce.isCallable routine then
    match ← makeRecord [(.ofString "", .ordinary value)] with
    | .object owner => revive call.machine routine 10000 owner (.ofString "")
    | _ => return value
  else return value

def hexDigits (n : Nat) : Units :=
  [12, 8, 4, 0].map fun shift => (Number.digitChar (n >>> shift % 16)).toNat.toUInt16

def escaped (u : UInt16) : Units :=
  match u with
  | 8 => units "\\b"
  | 9 => units "\\t"
  | 10 => units "\\n"
  | 12 => units "\\f"
  | 13 => units "\\r"
  | 34 => units "\\\""
  | 92 => units "\\\\"
  | u => if u < 32 then units "\\u" ++ hexDigits u.toNat else [u]

/-- A text between quotes. Surrogates that stand alone are escaped. -/
def quoted (text : Units) : Units :=
  34 :: (Text.points text).flatMap (fun n =>
    if Text.isLonePoint n then units "\\u" ++ hexDigits n
    else if n < 0x10000 then escaped n.toUInt16
    else Text.unitsOfPoint n) ++ [34]

/-- How values are written. -/
structure Layout where
  replacer : Value
  keys : Option (List Key)
  gap : Units

/-- The texts of parts between brackets, each on a line of its own if there is a gap. -/
def enclosed (layout : Layout) (indent : Units) (first last : UInt16) (parts : List Units) :
    Units :=
  if parts.isEmpty then [first, last]
  else if layout.gap.isEmpty then first :: List.flatten (parts.intersperse [44]) ++ [last]
  else
    let inner := 10 :: indent ++ layout.gap
    first :: inner ++ List.flatten (parts.intersperse (44 :: inner)) ++ 10 :: indent ++ [last]

/-- The value that is written for a member. -/
def shown (m : Machine) (layout : Layout) (owner : Nat) (key : Key) (value : Value) :
    Run Value := do
  let asked ← match value with
    | .object _ | .integer _ =>
      match ← Coerce.memberOf m value (.ofString "toJSON") with
      | .object routine =>
        if ← Coerce.isCallable (.object routine) then
          m.call (.object routine) value [key.value]
        else pure value
      | _ => pure value
    | _ => pure value
  let asked ← if layout.replacer == .undefined then pure asked
    else m.call layout.replacer (.object owner) [key.value, asked]
  match asked with
  | .object id =>
    match (← object id).kind with
    | .wrapped (.number _) => return .number (← Coerce.toNumber m asked)
    | .wrapped (.text _) => return .text (← Coerce.toText m asked)
    | .wrapped (.truth value) => return .truth value
    | .wrapped (.integer value) => return .integer value
    | _ => return asked
  | _ => return asked

/-- The text of a member, unless it has none. -/
def write (m : Machine) (layout : Layout) : Nat → List Nat → Units → Nat → Key → Value →
    Run (Option Units)
  | 0, _, _, _, _, _ => throw .exhausted
  | fuel + 1, around, indent, owner, key, value => do
    match ← shown m layout owner key value with
    | .null => return some (units "null")
    | .truth value => return some (units (if value then "true" else "false"))
    | .text text => return some (quoted text)
    | .number n => return some (if n.isFinite then numberText n else units "null")
    | .integer _ => failType "cannot serialize bigint to JSON"
    | .object id =>
      if ← Coerce.isCallable (.object id) then return none
      if around.contains id then failType "cyclic object value"
      let inner := indent ++ layout.gap
      if ← Coerce.isList (.object id) then
        let parts ← (List.range (← Coerce.lengthOf m id)).mapM fun i => do
          let key := Key.ofNat i
          let value ← Member.get m id key
          return (← write m layout fuel (id :: around) inner id key value).getD (units "null")
        return some (enclosed layout indent 91 93 parts)
      else
        let keys ← match layout.keys with
          | some keys => pure keys
          | none => (← Member.keys m id).filterM fun key => do
            return key.isText && ((← Member.own? m id key).map Slot.isEnumerable).getD false
        let parts ← keys.filterMapM fun key => do
          let value ← Member.get m id key
          let text ← write m layout fuel (id :: around) inner id key value
          return text.map fun text =>
            quoted (key.units?.getD []) ++ (if layout.gap.isEmpty then [58] else [58, 32]) ++ text
        return some (enclosed layout indent 123 125 parts)
    | _ => return none

/-- The keys that a list asks for. -/
def keysOf (m : Machine) (list : Value) : Run (List Key) := do
  let found ← (← Coerce.itemsOf m list).filterMapM fun item => do
    match item with
    | .text _ | .number _ => return some (← Coerce.toKey m item)
    | .object id =>
      match (← object id).kind with
      | .wrapped (.text _) | .wrapped (.number _) => return some (← Coerce.toKey m item)
      | _ => return none
    | _ => return none
  return found.foldl (fun keys key => if keys.contains key then keys else keys ++ [key]) []

/-- The blanks that one level is indented by. -/
def gap (call : Call) : Run Units := do
  let space ← match call.argument 2 with
    | .object id =>
      match (← object id).kind with
      | .wrapped (.number _) => pure (Value.number (← call.number 2))
      | .wrapped (.text _) => pure (Value.text (← call.text 2))
      | _ => pure .undefined
    | value => pure value
  match space with
  | .number _ => return List.replicate (min 10 (← call.whole 2).toNat) 32
  | .text text => return text.take 10
  | _ => return []

def stringify (call : Call) : Run Value := do
  let m := call.machine
  let replacer := call.argument 1
  let isRoutine ← Coerce.isCallable replacer
  let keys ← if !isRoutine && (← Coerce.isList replacer) then
      pure (some (← keysOf m replacer))
    else pure none
  let layout : Layout :=
    ⟨if isRoutine then replacer else .undefined, keys, ← gap call⟩
  match ← makeRecord [(.ofString "", .ordinary (call.argument 0))] with
  | .object owner =>
    match ← write m layout 5000 [] [] owner (.ofString "") (call.argument 0) with
    | some text => return .text text
    | none => return .undefined
  | _ => return .undefined

def family : Family where
  name := "JSON"
  tag := some "JSON"
  own := [⟨"parse", 2, parse⟩, ⟨"stringify", 3, stringify⟩]

end FootprintTemplate.Script.Library.Exchange
