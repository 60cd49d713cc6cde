/-! The characters of a YAML stream and places in it. -/
namespace FootprintTemplate.Yaml

structure Mark where
  line : Nat := 0
  /-- The characters before it on its line. -/
  column : Nat := 0
  /-- The bytes that they take. -/
  offset : Nat := 0
deriving DecidableEq, Repr

namespace Mark

def next (c : Char) (mark : Mark) : Mark :=
  { mark with column := mark.column + 1, offset := mark.offset + c.utf8Size }

def nextLine (mark : Mark) : Mark :=
  ⟨mark.line + 1, 0, 0⟩

/-- Past some characters of one byte. -/
def skip (mark : Mark) (count : Nat) : Mark :=
  { mark with column := mark.column + count, offset := mark.offset + count }

end Mark

/-- What is still to be read, from a place on. -/
structure Cursor where
  rest : List Char
  mark : Mark := {}
deriving Repr

/-- Characters that a stream may hold. -/
def isAllowed (c : Char) : Bool :=
  c == '\t' || c == '\n' || c == '\r' || (' ' ≤ c && c ≤ '~') || c == '\u0085' ||
    ('\u00a0' ≤ c && c ≤ '\ufffd') || 0x10000 ≤ c.toNat

/-- Line ends of one kind: a line feed, or one of the two Unicode separators. -/
def unifyLines : List Char → List Char
  | [] => []
  | '\r' :: '\n' :: rest => '\n' :: unifyLines rest
  | c :: rest => (if c == '\r' || c == '\u0085' then '\n' else c) :: unifyLines rest

def isBreak (c : Char) : Bool :=
  c == '\n' || c == '\u2028' || c == '\u2029'

def isBlank (c : Char) : Bool :=
  c == ' ' || c == '\t'

/-- The next character, if there is one, is a blank or ends the line. -/
def startsBlank : List Char → Bool
  | [] => true
  | c :: _ => isBlank c || isBreak c

/-- A document starts or ends here. Only at the start of a line is this asked. -/
def startsIndicator : List Char → Bool
  | '-' :: '-' :: '-' :: rest => startsBlank rest
  | '.' :: '.' :: '.' :: rest => startsBlank rest
  | _ => false

/-- Letters of anchors and of tag handles. -/
def isWordChar (c : Char) : Bool :=
  c.isAlphanum || c == '_' || c == '-'

/-- May open a line. -/
def byteOrderMark : Char :=
  '\ufeff'

def readSource (text : String) : Option Cursor :=
  if text.toList.all isAllowed then some ⟨unifyLines text.toList, {}⟩ else none

end FootprintTemplate.Yaml
