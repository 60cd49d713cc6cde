/-! Tokens of a footprint text: parentheses, quoted strings with their quotes, and bare atoms.
Blanks and comments only separate tokens. Reading is one pass that never fails; a string that
is not closed runs to the end of the text. -/
namespace FootprintTemplate.Sexpr

/-- A piece of the text and the byte at which it starts. -/
structure Token where
  text : String
  offset : Nat
deriving DecidableEq, Repr

namespace Token

def isOpen (token : Token) : Bool :=
  token.text == "("

def isClose (token : Token) : Bool :=
  token.text == ")"

/-- The characters of a string whose closing quote was never found. -/
def isUnclosed : List Char → Bool
  | '"' :: rest =>
    match rest.reverse with
    | '"' :: '\\' :: _ => true
    | '"' :: _ => false
    | _ => true
  | _ => false

def isUnterminated (token : Token) : Bool :=
  isUnclosed token.text.toList

end Token

/-- What the text read so far ends in. Characters of an open token are kept newest first. -/
inductive Mode where
  | gap
  | comment
  | atom (start : Nat) (chars : List Char)
  | quoted (start : Nat) (chars : List Char)
deriving DecidableEq, Repr

def isBlank (c : Char) : Bool :=
  c == ' ' || c == '\t' || c == '\n' || c == '\r'

/-- Ends a bare atom. -/
def isDelimiter (c : Char) : Bool :=
  c == '"' || c == ';' || c == '(' || c == ')' || isBlank c

/-- A reading in progress: the finished tokens, newest first, and the bytes read. -/
structure Scan where
  found : List Token
  mode : Mode
  offset : Nat
deriving DecidableEq, Repr

namespace Scan

def start : Scan :=
  ⟨[], .gap, 0⟩

/-- The tokens and the mode after a character outside atoms, strings and comments. -/
def enter (found : List Token) (offset : Nat) (c : Char) : List Token × Mode :=
  if c == '"' then (found, .quoted offset [c])
  else if c == ';' then (found, .comment)
  else if c == '(' || c == ')' then (⟨String.singleton c, offset⟩ :: found, .gap)
  else if isBlank c then (found, .gap)
  else (found, .atom offset [c])

/-- A token from its characters, newest first. -/
def finished (start : Nat) (chars : List Char) : Token :=
  ⟨String.ofList chars.reverse, start⟩

/-- A quote closes a string unless a backslash stands right before it. -/
def advance (scan : Scan) (c : Char) : List Token × Mode :=
  match scan.mode with
  | .gap => enter scan.found scan.offset c
  | .comment => (scan.found, if c == '\n' then .gap else .comment)
  | .atom start chars =>
    if isDelimiter c then enter (finished start chars :: scan.found) scan.offset c
    else (scan.found, .atom start (c :: chars))
  | .quoted start chars =>
    if c == '"' && chars.head? != some '\\' then
      (finished start (c :: chars) :: scan.found, .gap)
    else (scan.found, .quoted start (c :: chars))

def push (scan : Scan) (c : Char) : Scan :=
  let next := scan.advance c
  ⟨next.1, next.2, scan.offset + c.utf8Size⟩

/-- All tokens in text order, the open one included. -/
def tokens (scan : Scan) : List Token :=
  match scan.mode with
  | .atom start chars | .quoted start chars => (finished start chars :: scan.found).reverse
  | .gap | .comment => scan.found.reverse

end Scan

def tokenize (text : String) : List Token :=
  (text.toList.foldl Scan.push Scan.start).tokens

end FootprintTemplate.Sexpr
