import FootprintTemplate.Yaml.Tag

/-! Tokens of a YAML stream. Indentation becomes explicit starts and ends of blocks, and a key is
marked once the colon after it is met. Sequences are not read: no setting holds one. -/
namespace FootprintTemplate.Yaml

inductive Token where
  | directive (directive : Directive)
  | documentStart
  | documentEnd
  | blockMappingStart
  | blockEnd
  | flowMappingStart
  | flowMappingEnd
  | flowEntry
  | key
  | value
  | alias (name : String)
  | anchor (name : String)
  | tag (tag : Tag)
  | scalar (text : String) (style : Style)
deriving DecidableEq, Repr

/-- A token that becomes a key if a colon follows on its line. A required one has to. -/
structure SimpleKey where
  required : Bool
  /-- The number of tokens before it. -/
  position : Nat
  mark : Mark
deriving DecidableEq, Repr

structure Scanner where
  cursor : Cursor
  tokens : List Token := []
  /-- Possible keys of the block context and of each open flow mapping, the innermost first. -/
  key : Option SimpleKey := none
  outerKeys : List (Option SimpleKey) := []
  /-- The column of the innermost block, or minus one, and of those around it. -/
  indent : Int := -1
  outerIndents : List Int := []
  /-- A key may start here. -/
  keyAllowed : Bool := true

namespace Scanner

def inFlow (s : Scanner) : Bool :=
  !s.outerKeys.isEmpty

def mark (s : Scanner) : Mark :=
  s.cursor.mark

def push (s : Scanner) (token : Token) : Scanner :=
  { s with tokens := s.tokens ++ [token] }

def insertAt (s : Scanner) (position : Nat) (token : Token) : Scanner :=
  { s with tokens := s.tokens.take position ++ token :: s.tokens.drop position }

def skip (s : Scanner) (count : Nat) : Scanner :=
  { s with cursor := ⟨s.cursor.rest.drop count, s.mark.skip count⟩ }

/-- Drops blanks, comments, line ends and a byte order mark at the start of a line. Tabs may not
indent where a key can start. A line end lets a key start again. -/
def skipGap (inFlow comment keyAllowed : Bool) (mark : Mark) : List Char → Cursor × Bool
  | [] => (⟨[], mark⟩, keyAllowed)
  | c :: rest =>
    if isBreak c then skipGap inFlow false (keyAllowed || !inFlow) mark.nextLine rest
    else if comment || c == ' ' || (c == '\t' && (inFlow || !keyAllowed)) ||
        (mark.column == 0 && c == byteOrderMark) then
      skipGap inFlow comment keyAllowed (mark.next c) rest
    else if c == '#' then skipGap inFlow true keyAllowed (mark.next c) rest
    else (⟨c :: rest, mark⟩, keyAllowed)

def toNext (s : Scanner) : Scanner :=
  let gap := skipGap s.inFlow false s.keyAllowed s.mark s.cursor.rest
  { s with cursor := gap.1, keyAllowed := gap.2 }

/-- A possible key that is left behind. A required key must not be. -/
def dropKey (s : Scanner) : Option Scanner :=
  match s.key with
  | some key => if key.required then none else some { s with key := none }
  | none => some s

/-- The bytes of a key and the blanks after it at most. -/
def maxKey : Nat := 1024

/-- A key stands on one line. -/
def isStale (mark : Mark) (key : SimpleKey) : Bool :=
  key.mark.line < mark.line || key.mark.offset + maxKey < mark.offset

def dropStale (s : Scanner) : Option Scanner :=
  let stale (key : Option SimpleKey) : Bool := key.any (isStale s.mark)
  if (s.key :: s.outerKeys).any fun key => stale key && key.any (·.required) then none
  else
    let fresh (key : Option SimpleKey) : Option SimpleKey := if stale key then none else key
    some { s with key := fresh s.key, outerKeys := s.outerKeys.map fresh }

def saveKey (s : Scanner) : Option Scanner :=
  if s.keyAllowed then
    s.dropKey.map fun s =>
      { s with key := some ⟨!s.inFlow && s.indent == s.mark.column, s.tokens.length, s.mark⟩ }
  else some s

/-- Closes the blocks that are indented further than a column. -/
def closeBlocks (column : Int) (s : Scanner) : List Int → Scanner
  | [] => s
  | outer :: others =>
    if column < s.indent then
      closeBlocks column ({ s with indent := outer, outerIndents := others }.push .blockEnd) others
    else s

def unroll (s : Scanner) (column : Int) : Scanner :=
  if s.inFlow then s else closeBlocks column s s.outerIndents

/-- Opens a block at a column that is indented further than the block around it. -/
def roll (s : Scanner) (column : Nat) (position : Nat) : Scanner :=
  if !s.inFlow && s.indent < column then
    { s with indent := column, outerIndents := s.indent :: s.outerIndents }.insertAt position
      .blockMappingStart
  else s

def indicator (s : Scanner) (count : Nat) (token : Token) : Scanner :=
  (s.skip count).push token

def documentIndicator (s : Scanner) (token : Token) : Option Scanner :=
  (s.unroll (-1)).dropKey.map fun s => { s with keyAllowed := false }.indicator 3 token

def openFlow (s : Scanner) : Option Scanner :=
  s.saveKey.map fun s =>
    { s with key := none, outerKeys := s.key :: s.outerKeys, keyAllowed := true }.indicator 1
      .flowMappingStart

def closeFlow (s : Scanner) : Option Scanner :=
  s.dropKey.map fun s =>
    let s := match s.outerKeys with
      | [] => s
      | key :: others => { s with key, outerKeys := others }
    { s with keyAllowed := false }.indicator 1 .flowMappingEnd

def flowEntry (s : Scanner) : Option Scanner :=
  s.dropKey.map fun s => { s with keyAllowed := true }.indicator 1 .flowEntry

/-- The explicit mark of a key. -/
def explicitKey (s : Scanner) : Option Scanner :=
  if !s.inFlow && !s.keyAllowed then none
  else
    (s.roll s.mark.column s.tokens.length).dropKey.map fun s =>
      { s with keyAllowed := !s.inFlow }.indicator 1 .key

/-- A colon. It makes the possible key before it a key, and opens a block for it if need be. -/
def value (s : Scanner) : Option Scanner :=
  match s.key with
  | some key =>
    let s := (s.insertAt key.position .key).roll key.mark.column key.position
    some ({ s with key := none, keyAllowed := false }.indicator 1 .value)
  | none =>
    if !s.inFlow && !s.keyAllowed then none
    else
      let s := s.roll s.mark.column s.tokens.length
      some ({ s with keyAllowed := !s.inFlow }.indicator 1 .value)

/-- The name of an anchor or alias, which a blank or an indicator has to end. -/
def named (s : Scanner) (token : String → Token) : Option Scanner :=
  let rest := s.cursor.rest.drop 1
  let name := rest.takeWhile isWordChar
  let after := rest.dropWhile isWordChar
  let ended := startsBlank after || (after.head?.any fun c => "?:,]\x7d%@\x60".toList.contains c)
  if name.isEmpty || !ended then none
  else s.saveKey.map fun s =>
    { s with keyAllowed := false }.indicator (name.length + 1) (token (String.ofList name))

/-- Goes on after some characters of one byte. -/
def skipTo (s : Scanner) (rest : List Char) : Scanner :=
  s.skip (s.cursor.rest.length - rest.length)

def tag (s : Scanner) : Option Scanner :=
  match readTag s.cursor.rest with
  | none => none
  | some (tag, after) =>
    if startsBlank after || (s.inFlow && after.head? == some ',') then
      s.saveKey.map fun s => ({ s with keyAllowed := false }.skipTo after).push (.tag tag)
    else none

def directive (s : Scanner) : Option Scanner :=
  match readDirective (s.cursor.rest.drop 1) with
  | none => none
  | some (directive, after) =>
    match skipLineEnd s.mark after with
    | none => none
    | some cursor =>
      (s.unroll (-1)).dropKey.map fun s =>
        { s with cursor, keyAllowed := false }.push (.directive directive)

def pushScalar (s : Scanner) (style : Style) (scan : Scanned) : Scanner :=
  { s with cursor := scan.after }.push (.scalar scan.text style)

def blockScalar (s : Scanner) (style : Style) : Option Scanner :=
  match s.dropKey, scanBlock (style == .folded) s.indent s.cursor with
  | some s, some scan => some ({ s with keyAllowed := true }.pushScalar style scan)
  | _, _ => none

def flowScalar (s : Scanner) (style : Style) : Option Scanner :=
  let rest := s.cursor.rest.drop 1
  let scan? :=
    if style == .singleQuoted then scanSingle [] (.inline []) (s.mark.next '\x27') rest
    else scanDouble [] (.inline []) .none (s.mark.next '"') rest
  match s.saveKey, scan? with
  | some s, some scan => some ({ s with keyAllowed := false }.pushScalar style scan)
  | _, _ => none

def plainScalar (s : Scanner) : Option Scanner :=
  match s.saveKey, scanPlain s.inFlow (s.indent + 1) [] (.inline []) s.mark s.cursor.rest with
  | some s, some scan => some ({ s with keyAllowed := scan.crossedLine }.pushScalar .plain scan)
  | _, _ => none

/-- Characters with which no plain scalar starts, unless two of them stand before a word. -/
def isIndicator (c : Char) : Bool :=
  "-?:,[]\x7b\x7d#&*!|>'\"%@\x60".toList.contains c

def startsPlain (inFlow : Bool) (c : Char) (rest : List Char) : Bool :=
  !isBlank c && (!isIndicator c || (c == '-' && !(rest.head?.any isBlank)) ||
    (!inFlow && (c == '?' || c == ':') && !startsBlank rest))

/-- Reads the token that starts with a character. -/
def token (s : Scanner) (c : Char) (rest : List Char) : Option Scanner :=
  let lineStart := s.mark.column == 0
  if lineStart && c == '%' then s.directive
  else if lineStart && startsIndicator (c :: rest) then
    s.documentIndicator (if c == '-' then .documentStart else .documentEnd)
  else if c == '[' || c == ']' || (c == '-' && startsBlank rest) then none
  else if c == '\x7b' then s.openFlow
  else if c == '\x7d' then s.closeFlow
  else if c == ',' then s.flowEntry
  else if c == '?' && (s.inFlow || startsBlank rest) then s.explicitKey
  else if c == ':' && (s.inFlow || startsBlank rest) then s.value
  else if c == '*' then s.named .alias
  else if c == '&' then s.named .anchor
  else if c == '!' then s.tag
  else if c == '|' && !s.inFlow then s.blockScalar .literal
  else if c == '>' && !s.inFlow then s.blockScalar .folded
  else if c == '\x27' then s.flowScalar .singleQuoted
  else if c == '"' then s.flowScalar .doubleQuoted
  else if startsPlain s.inFlow c rest then s.plainScalar
  else none

/-- The end of the stream closes all blocks. -/
def finish (s : Scanner) : Option (List Token) :=
  (s.unroll (-1)).dropKey.map (·.tokens)

/-- Reads tokens up to the end. Each takes at least one character. -/
def run : Nat → Scanner → Option (List Token)
  | 0, _ => none
  | fuel + 1, s =>
    match s.toNext.dropStale with
    | none => none
    | some s =>
      let s := s.unroll s.mark.column
      match s.cursor.rest with
      | [] => s.finish
      | c :: rest =>
        match s.token c rest with
        | none => none
        | some s => run fuel s

end Scanner

def tokenize (text : String) : Option (List Token) :=
  match readSource text with
  | none => none
  | some cursor => Scanner.run (cursor.rest.length + 1) { cursor }

end FootprintTemplate.Yaml
