import FootprintTemplate.Sexpr.Node
import FootprintTemplate.Sexpr.Token
import FootprintTemplate.Text.Quoted

/-! Reading trees from tokens. A document is exactly one node. The reader goes through the tokens
once and keeps the nodes that are still open. -/
namespace FootprintTemplate.Sexpr

/-- Nodes may nest this deep. -/
def maxDepth : Nat := 512

/-- Why tokens are no document, with the index of the first token that is at fault and the byte
at which it starts. -/
inductive ParseError where
  | expectedOpen (index offset : Nat) (found : String)
  | missingType (index offset : Nat)
  | unexpectedEnd (index : Nat)
  | unterminatedString (index offset : Nat)
  | trailingTokens (index offset : Nat)
  | tooDeep (index offset : Nat)
deriving DecidableEq, Repr

def ParseError.message : ParseError → String
  | .expectedOpen index offset found =>
    s!"expected '(' at token {index} (byte {offset}), found {Text.quoted found}"
  | .missingType index offset =>
    s!"node opened at token {index} (byte {offset}) has no type atom"
  | .unexpectedEnd index =>
    s!"unexpected end of input at token {index}: expected ')'"
  | .unterminatedString index offset =>
    s!"unterminated string starting at token {index} (byte {offset})"
  | .trailingTokens index offset =>
    s!"unexpected trailing token at {index} (byte {offset}) after the top-level node"
  | .tooDeep index offset =>
    s!"nesting deeper than {maxDepth} levels at token {index} (byte {offset})"

/-- A node whose closing parenthesis is still to come. Its items are kept newest first. -/
structure Frame where
  kind : String
  items : List Item
deriving Repr

def Frame.push (frame : Frame) (item : Item) : Frame :=
  { frame with items := item :: frame.items }

def Frame.node (frame : Frame) : Node :=
  ⟨frame.kind, frame.items.reverse⟩

/-- The text of a token that stands for an atom. -/
def atomAt (index : Nat) (token : Token) : Except ParseError String :=
  if token.isUnterminated then .error (.unterminatedString index token.offset)
  else .ok token.text

/-- The kind right after an opening parenthesis. -/
def kindAt (index : Nat) (token : Token) : Except ParseError String :=
  if token.isOpen || token.isClose then .error (.missingType index token.offset)
  else atomAt index token

/-- A node and the tokens after it, the first of which has the given index. -/
structure Parsed where
  node : Node
  index : Nat
  rest : List Token
deriving Repr

/-- Reads the items of `top`, which stands in the open nodes `outer`, innermost first. -/
def readItems (outer : List Frame) (top : Frame) (index : Nat) :
    List Token → Except ParseError Parsed
  | [] => .error (.unexpectedEnd index)
  | token :: rest =>
    if token.isClose then
      match outer with
      | [] => .ok ⟨top.node, index + 1, rest⟩
      | parent :: below => readItems below (parent.push top.node.item) (index + 1) rest
    else if token.isOpen then
      if maxDepth ≤ outer.length + 1 then .error (.tooDeep index token.offset)
      else
        match rest with
        | [] => .error (.unexpectedEnd (index + 1))
        | kind :: rest =>
          match kindAt (index + 1) kind with
          | .error e => .error e
          | .ok kind => readItems (top :: outer) ⟨kind, []⟩ (index + 2) rest
    else
      match atomAt index token with
      | .error e => .error e
      | .ok text => readItems outer (top.push (.atom text)) (index + 1) rest

def readNode : List Token → Except ParseError Parsed
  | [] => .error (.unexpectedEnd 0)
  | token :: rest =>
    if !token.isOpen then .error (.expectedOpen 0 token.offset token.text)
    else
      match rest with
      | [] => .error (.unexpectedEnd 1)
      | kind :: rest =>
        match kindAt 1 kind with
        | .error e => .error e
        | .ok kind => readItems [] ⟨kind, []⟩ 2 rest

/-- The first node of the tokens. What follows it is not looked at. -/
def parseFirst (tokens : List Token) : Except ParseError Node :=
  (readNode tokens).map Parsed.node

/-- The one node that a text holds. -/
def parse (text : String) : Except ParseError Node :=
  match readNode (tokenize text) with
  | .error e => .error e
  | .ok parsed =>
    match parsed.rest with
    | [] => .ok parsed.node
    | token :: _ => .error (.trailingTokens parsed.index token.offset)

end FootprintTemplate.Sexpr
