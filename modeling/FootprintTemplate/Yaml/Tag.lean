import FootprintTemplate.Yaml.Scalar

/-! Tags of nodes, and the directives before a document that declare their handles. A tag is written
in full, or with a handle that stands for its first part. A percent sign and two hexadecimal digits
stand for an octet. -/
namespace FootprintTemplate.Yaml

abbrev Octets := List UInt8

/-- The octets of a text that has only ASCII characters. -/
def octets (text : List Char) : Octets :=
  text.map Char.toUInt8

structure Tag where
  /-- What stands for the first part of the name, or nothing. -/
  handle : String
  suffix : Octets
deriving DecidableEq, Repr

/-- What handles stand for. -/
abbrev Handles := List (String × Octets)

/-- Handles that stand for something unless they are declared anew. -/
def standingHandles : Handles :=
  [("!", octets ['!']), ("!!", octets "tag:yaml.org,2002:".toList)]

/-- The full name of a tag. Its handle has to stand for something. -/
def Tag.name? (handles : Handles) (tag : Tag) : Option Octets :=
  if tag.handle == "" then some tag.suffix else (handles.lookup tag.handle).map (· ++ tag.suffix)

/-- The number of octets that follow the first one of a character. -/
def following? (octet : Nat) : Option Nat :=
  if octet < 0x80 then some 0
  else if octet < 0xc0 then none
  else if octet < 0xe0 then some 1
  else if octet < 0xf0 then some 2
  else if octet < 0xf8 then some 3
  else none

/-- Whether an octet may stand where `missing` octets of a character are still to come, and how many
come after it. -/
def followOctet (missing octet : Nat) : Option Nat :=
  match missing with
  | 0 => following? octet
  | missing + 1 => if 0x80 ≤ octet && octet < 0xc0 then some missing else none

def isTagChar (inBrackets : Bool) (c : Char) : Bool :=
  isWordChar c || ";/?:@&=+$.!~*'()".toList.contains c || (inBrackets && ",[]".toList.contains c)

/-- Reads a part of a tag as far as it goes. -/
def scanTag (inBrackets : Bool) (missing : Nat) : List Char → Option (Octets × List Char)
  | [] => if missing == 0 then some ([], []) else none
  | '%' :: high :: low :: rest =>
    match hexValue? high, hexValue? low with
    | some high, some low =>
      match followOctet missing (16 * high + low) with
      | some missing =>
        (scanTag inBrackets missing rest).map fun (name, rest) =>
          (UInt8.ofNat (16 * high + low) :: name, rest)
      | none => none
    | _, _ => none
  | c :: rest =>
    if missing != 0 || c == '%' then none
    else if isTagChar inBrackets c then
      (scanTag inBrackets 0 rest).map fun (name, rest) => (c.toUInt8 :: name, rest)
    else some ([], c :: rest)

/-- A zero octet ends a name. -/
def endName (name : Octets) : Octets :=
  name.takeWhile (· != 0)

/-- An exclamation mark and a word, with another exclamation mark if there is one. -/
def scanHandle : List Char → Option (List Char × List Char)
  | '!' :: rest =>
    let word := rest.takeWhile isWordChar
    match rest.dropWhile isWordChar with
    | '!' :: after => some ('!' :: (word ++ ['!']), after)
    | after => some ('!' :: word, after)
  | _ => none

/-- The handle of a tag, which only an exclamation mark ends, or the word that opens the tag. -/
def readShortTag (rest : List Char) : Option (Tag × List Char) :=
  match scanHandle rest with
  | none => none
  | some (handle, after) =>
    match scanTag false 0 after with
    | none => none
    | some (name, after) =>
      if handle.length != 1 && handle.getLast? == some '!' then
        if name.isEmpty then none else some (⟨String.ofList handle, endName name⟩, after)
      else
        let suffix := endName (octets (handle.drop 1) ++ name)
        if suffix.isEmpty then some (⟨"", octets ['!']⟩, after) else some (⟨"!", suffix⟩, after)

def readTag : List Char → Option (Tag × List Char)
  | '!' :: '<' :: rest =>
    match scanTag true 0 rest with
    | some (name, '>' :: after) =>
      if name.isEmpty then none else some (⟨"", endName name⟩, after)
    | _ => none
  | rest => readShortTag rest

/-- A line before a document. -/
inductive Directive where
  | version (major minor : Nat)
  | handle (name : String) (meaning : Octets)
deriving DecidableEq, Repr

def maxVersionDigits : Nat := 9

def readVersionNumber (rest : List Char) : Option (Nat × List Char) :=
  let digits := rest.takeWhile Char.isDigit
  if digits.isEmpty || maxVersionDigits < digits.length then none
  else some (digits.foldl (fun n digit => 10 * n + (digit.toNat - '0'.toNat)) 0,
    rest.dropWhile Char.isDigit)

def readVersion (rest : List Char) : Option (Directive × List Char) :=
  match readVersionNumber rest with
  | some (major, '.' :: rest) =>
    (readVersionNumber rest).map fun (minor, rest) => (.version major minor, rest)
  | _ => none

/-- A handle and, after blanks, what it stands for. -/
def readHandle (rest : List Char) : Option (Directive × List Char) :=
  match scanHandle rest with
  | none => none
  | some (handle, after) =>
    if handle.getLast? != some '!' || !after.head?.any isBlank then none
    else match scanTag true 0 (after.dropWhile isBlank) with
      | none => none
      | some (meaning, after) =>
        if meaning.isEmpty || !startsBlank after then none
        else some (.handle (String.ofList handle) (endName meaning), after)

/-- Reads a directive after its percent sign. -/
def readDirective (rest : List Char) : Option (Directive × List Char) :=
  let name := String.ofList (rest.takeWhile isWordChar)
  let after := rest.dropWhile isWordChar
  if !startsBlank after then none
  else if name == "YAML" then readVersion (after.dropWhile isBlank)
  else if name == "TAG" then readHandle (after.dropWhile isBlank)
  else none

/-- The handles that directives leave standing. There is one version at most, 1.1 or 1.2, and no
handle is declared twice. -/
def declareHandles (versioned : Bool) (declared : Handles) : List Directive → Option Handles
  | [] => some (declared ++ standingHandles)
  | .version major minor :: rest =>
    if versioned || major != 1 || (minor != 1 && minor != 2) then none
    else declareHandles true declared rest
  | .handle name meaning :: rest =>
    if declared.any (·.1 == name) then none
    else declareHandles versioned ((name, meaning) :: declared) rest

end FootprintTemplate.Yaml
