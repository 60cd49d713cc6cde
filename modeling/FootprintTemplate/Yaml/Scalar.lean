import FootprintTemplate.Yaml.Source

/-! Scalars of a YAML stream in their five styles. Each reader goes through the characters once and
keeps the blanks and line ends that it has not yet written. -/
namespace FootprintTemplate.Yaml

inductive Style where
  | plain
  | singleQuoted
  | doubleQuoted
  | literal
  | folded
deriving DecidableEq, Repr

/-- Blanks between two words: on one line, or over line ends of which the first may be escaped. -/
inductive Gap where
  | inline (blanks : List Char)
  | lines (first : Option Char) (others : List Char)
deriving DecidableEq, Repr

namespace Gap

def isEmpty (gap : Gap) : Bool :=
  gap == .inline []

def isLines : Gap → Bool
  | inline _ => false
  | lines _ _ => true

def pushBlank (c : Char) : Gap → Gap
  | inline blanks => inline (c :: blanks)
  | lines first others => lines first others

def pushBreak (c : Char) : Gap → Gap
  | inline _ => lines (some c) []
  | lines first others => lines first (c :: others)

/-- What the gap stands for, last character first. One line feed folds into a space; of several the
first is dropped. -/
def folded : Gap → List Char
  | inline blanks => blanks
  | lines (some '\n') [] => [' ']
  | lines (some '\n') others => others
  | lines first others => others ++ first.toList

end Gap

/-- A scalar's text and what follows it. -/
structure Scanned where
  text : String
  after : Cursor
  /-- The scalar ended after a line end. -/
  crossedLine : Bool
deriving Repr

def scanned (out : List Char) (rest : List Char) (mark : Mark) (gap : Gap) : Scanned :=
  ⟨String.ofList out.reverse, ⟨rest, mark⟩, gap.isLines⟩

def isFlowIndicator (c : Char) : Bool :=
  c == ',' || c == '[' || c == ']' || c == '\x7b' || c == '\x7d'

/-- A colon that no plain scalar of a flow mapping may hold. -/
def isStrayColon (c : Char) (rest : List Char) : Bool :=
  c == ':' && match rest with
    | next :: _ => isFlowIndicator next || next == '?'
    | [] => false

def endsPlain (inFlow : Bool) (c : Char) (rest : List Char) : Bool :=
  (c == ':' && startsBlank rest) || (inFlow && isFlowIndicator c)

/-- Reads a plain scalar. Lines after the first have to be indented as far as `indent`. -/
def scanPlain (inFlow : Bool) (indent : Int) (out : List Char) (gap : Gap) (mark : Mark) :
    List Char → Option Scanned
  | [] => some (scanned out [] mark gap)
  | c :: rest =>
    if isBlank c then
      if gap.isLines && mark.column < indent && c == '\t' then none
      else scanPlain inFlow indent out (gap.pushBlank c) (mark.next c) rest
    else if isBreak c then scanPlain inFlow indent out (gap.pushBreak c) mark.nextLine rest
    else if !gap.isEmpty && ((!inFlow && mark.column < indent) || c == '#' ||
        (mark.column == 0 && startsIndicator (c :: rest))) then
      some (scanned out (c :: rest) mark gap)
    else if inFlow && isStrayColon c rest then none
    else if endsPlain inFlow c rest then some (scanned out (c :: rest) mark gap)
    else scanPlain inFlow indent (c :: (gap.folded ++ out)) (.inline []) (mark.next c) rest

/-- Reads what follows the opening quote of a single-quoted scalar. A quote is written twice. -/
def scanSingle (out : List Char) (gap : Gap) (mark : Mark) : List Char → Option Scanned
  | [] => none
  | c :: rest =>
    if isBlank c then scanSingle out (gap.pushBlank c) (mark.next c) rest
    else if isBreak c then scanSingle out (gap.pushBreak c) mark.nextLine rest
    else if !gap.isEmpty && mark.column == 0 && startsIndicator (c :: rest) then none
    else
      let out := gap.folded ++ out
      if c == '\x27' then
        match rest with
        | '\x27' :: rest => scanSingle ('\x27' :: out) (.inline []) (mark.skip 2) rest
        | rest => some (scanned out rest (mark.next c) (.inline []))
      else scanSingle (c :: out) (.inline []) (mark.next c) rest

/-- Inside an escape: after the backslash, or with hexadecimal digits still to come. -/
inductive Escape where
  | none
  | letter
  | digits (count value : Nat)
deriving DecidableEq, Repr

def escapeChar? : Char → Option Char
  | '0' => some '\x00'
  | 'a' => some '\x07'
  | 'b' => some '\x08'
  | 't' | '\t' => some '\t'
  | 'n' => some '\n'
  | 'v' => some '\x0b'
  | 'f' => some '\x0c'
  | 'r' => some '\r'
  | 'e' => some '\x1b'
  | ' ' => some ' '
  | '"' => some '"'
  | '/' => some '/'
  | '\\' => some '\\'
  | 'N' => some '\u0085'
  | '_' => some '\u00a0'
  | 'L' => some '\u2028'
  | 'P' => some '\u2029'
  | _ => none

/-- The number of digits after an escape letter. -/
def escapeDigits? : Char → Option Nat
  | 'x' => some 2
  | 'u' => some 4
  | 'U' => some 8
  | _ => none

def hexValue? (c : Char) : Option Nat :=
  if '0' ≤ c && c ≤ '9' then some (c.toNat - '0'.toNat)
  else if 'a' ≤ c && c ≤ 'f' then some (c.toNat - 'a'.toNat + 10)
  else if 'A' ≤ c && c ≤ 'F' then some (c.toNat - 'A'.toNat + 10)
  else none

def charOf? (code : Nat) : Option Char :=
  if code.isValidChar then some (Char.ofNat code) else none

/-- Reads what follows the opening quote of a double-quoted scalar. -/
def scanDouble (out : List Char) (gap : Gap) (escape : Escape) (mark : Mark) :
    List Char → Option Scanned
  | [] => none
  | c :: rest =>
    match escape with
    | .digits (count + 1) value =>
      match hexValue? c with
      | none => none
      | some digit =>
        let value := 16 * value + digit
        if count == 0 then
          match charOf? value with
          | none => none
          | some char => scanDouble (char :: out) gap .none (mark.next c) rest
        else scanDouble out gap (.digits count value) (mark.next c) rest
    | .digits 0 _ => none
    | .letter =>
      if isBreak c then scanDouble out (.lines none []) .none mark.nextLine rest
      else
        match escapeDigits? c, escapeChar? c with
        | some count, _ => scanDouble out gap (.digits count 0) (mark.next c) rest
        | none, some char => scanDouble (char :: out) gap .none (mark.next c) rest
        | none, none => none
    | .none =>
      if isBlank c then scanDouble out (gap.pushBlank c) .none (mark.next c) rest
      else if isBreak c then scanDouble out (gap.pushBreak c) .none mark.nextLine rest
      else if !gap.isEmpty && mark.column == 0 && startsIndicator (c :: rest) then none
      else
        let out := gap.folded ++ out
        if c == '"' then some (scanned out rest (mark.next c) (.inline []))
        else if c == '\\' then scanDouble out (.inline []) .letter (mark.next c) rest
        else scanDouble (c :: out) (.inline []) .none (mark.next c) rest

/-- What happens to the line ends after a block scalar. -/
inductive Chomping where
  | strip
  | clip
  | keep
deriving DecidableEq, Repr

/-- A block scalar as far as it is read. -/
structure Block where
  folds : Bool
  chomping : Chomping
  /-- The column of its lines, once it is known. -/
  indent : Option Nat
  /-- The least column that its lines may have. -/
  least : Nat
  out : List Char := []
  /-- The end of the last line and the empty lines after it, last first. -/
  lineEnd : List Char := []
  empty : List Char := []
  /-- The last line starts with a blank. -/
  blank : Bool := false
  /-- The widest indentation of the empty lines before the first line. -/
  widest : Nat := 0

namespace Block

def column (block : Block) : Nat :=
  block.indent.getD (max block.widest block.least)

/-- A line starts with the given character. Line ends fold unless one of the lines around them
starts with a blank. -/
def startLine (block : Block) (c : Char) : Block :=
  let joins := block.folds && block.lineEnd == ['\n'] && !block.blank && !isBlank c
  let between :=
    if joins then if block.empty.isEmpty then [' '] else block.empty
    else block.empty ++ block.lineEnd
  { block with
    indent := some block.column, out := c :: (between ++ block.out), lineEnd := [], empty := [],
    blank := isBlank c }

def finish (block : Block) (rest : List Char) (mark : Mark) : Scanned :=
  let tail := match block.chomping with
    | .strip => []
    | .clip => block.lineEnd
    | .keep => block.empty ++ block.lineEnd
  ⟨String.ofList (tail ++ block.out).reverse, ⟨rest, mark⟩, true⟩

/-- Reads the lines of a block scalar, from inside a line or from the start of one. -/
def scan (block : Block) (inLine : Bool) (mark : Mark) : List Char → Option Scanned
  | [] => some (block.finish [] mark)
  | c :: rest =>
    if inLine then
      if isBreak c then { block with lineEnd := [c] }.scan false mark.nextLine rest
      else { block with out := c :: block.out }.scan true (mark.next c) rest
    else
      let indenting := block.indent.all fun indent => mark.column < indent
      if indenting && c == ' ' then
        { block with widest := max block.widest (mark.column + 1) }.scan false (mark.next c) rest
      else if indenting && c == '\t' then none
      else if isBreak c then
        { block with empty := c :: block.empty }.scan false mark.nextLine rest
      else if mark.column == block.column then (block.startLine c).scan true (mark.next c) rest
      else some (block.finish (c :: rest) mark)

end Block

/-- The indicators after the sign of a block scalar: chomping and indentation in any order. -/
def blockHeader (rest : List Char) : Option (Chomping × Nat × List Char) :=
  let chomping? : Char → Option Chomping
    | '+' => some .keep
    | '-' => some .strip
    | _ => none
  let digit? (c : Char) : Option Nat := if c.isDigit then some (c.toNat - '0'.toNat) else none
  let withDigit (chomping : Chomping) : List Char → Option (Chomping × Nat × List Char)
    | c :: rest =>
      match digit? c with
      | some 0 => none
      | some n => some (chomping, n, rest)
      | none => some (chomping, 0, c :: rest)
    | [] => some (chomping, 0, [])
  match rest with
  | [] => some (.clip, 0, [])
  | c :: after =>
    match chomping? c with
    | some chomping => withDigit chomping after
    | none =>
      match withDigit .clip (c :: after) with
      | some (_, n, d :: rest) =>
        if n == 0 then some (.clip, 0, d :: rest)
        else match chomping? d with
          | some chomping => some (chomping, n, rest)
          | none => some (.clip, n, d :: rest)
      | other => other

/-- Drops blanks and a comment. Nothing else may stand before the end of the line. -/
def skipLineEnd (mark : Mark) (rest : List Char) : Option Cursor :=
  let afterBlanks := rest.dropWhile isBlank
  let afterComment := match afterBlanks with
    | '#' :: rest => rest.dropWhile (!isBreak ·)
    | rest => rest
  match afterComment with
  | [] => some ⟨[], mark⟩
  | c :: rest => if isBreak c then some ⟨rest, mark.nextLine⟩ else none

/-- Reads a block scalar from its sign on, inside a node of the given indentation. -/
def scanBlock (folds : Bool) (parentIndent : Int) (cursor : Cursor) : Option Scanned :=
  match blockHeader (cursor.rest.drop 1) with
  | none => none
  | some (chomping, increment, rest) =>
    match skipLineEnd cursor.mark rest with
    | none => none
    | some start =>
      let base := (max parentIndent 0).toNat
      let block : Block := {
        folds, chomping
        indent := if increment == 0 then none else some (base + increment)
        least := max 1 (parentIndent + 1).toNat }
      block.scan false start.mark start.rest

end FootprintTemplate.Yaml
