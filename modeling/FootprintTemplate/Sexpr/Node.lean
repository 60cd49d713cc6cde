/-! Trees of a footprint file: a node has a kind and items, an item is an atom or a node. Items
keep their order, since arguments are told apart by position. -/
namespace FootprintTemplate.Sexpr

inductive Item where
  | atom (text : String)
  | node (kind : String) (items : List Item)
deriving Repr

structure Node where
  kind : String
  items : List Item
deriving Repr

namespace Item

def atom? : Item → Option String
  | .atom text => some text
  | .node _ _ => none

def node? : Item → Option Node
  | .atom _ => none
  | .node kind items => some ⟨kind, items⟩

mutual
/-- The tokens of an item in source order. -/
def flatten : Item → List String
  | .atom text => [text]
  | .node kind items => "(" :: kind :: (flattenAll items ++ [")"])

def flattenAll : List Item → List String
  | [] => []
  | item :: rest => flatten item ++ flattenAll rest
end

mutual
/-- Nodes inside one another, the outermost counted. An atom has none. -/
def depth : Item → Nat
  | .atom _ => 0
  | .node _ items => depthAll items + 1

def depthAll : List Item → Nat
  | [] => 0
  | item :: rest => max (depth item) (depthAll rest)
end

mutual
/-- An item on one line. -/
def chars : Item → List Char
  | .atom text => text.toList
  | .node kind items => '(' :: kind.toList ++ (charsAll items ++ [')'])

/-- Items on one line, each after a space. -/
def charsAll : List Item → List Char
  | [] => []
  | item :: rest => ' ' :: (chars item ++ charsAll rest)
end

end Item

namespace Node

def item (node : Node) : Item :=
  .node node.kind node.items

def atoms (node : Node) : List String :=
  node.items.filterMap Item.atom?

def nodes (node : Node) : List Node :=
  node.items.filterMap Item.node?

/-- The first child node of a kind. -/
def child? (node : Node) (kind : String) : Option Node :=
  node.nodes.find? (·.kind == kind)

/-- The first item, where that is an atom. -/
def firstAtom? (node : Node) : Option String :=
  node.items.head?.bind Item.atom?

def flatten (node : Node) : List String :=
  node.item.flatten

def depth (node : Node) : Nat :=
  node.item.depth

/-- The node on one line. -/
def text (node : Node) : String :=
  String.ofList node.item.chars

end Node

/-- Drops one pair of surrounding double quotes. -/
def unquotedChars : List Char → List Char
  | '"' :: rest =>
    match rest.reverse with
    | '"' :: inner => inner.reverse
    | _ => '"' :: rest
  | chars => chars

/-- The name that an atom stands for, written with or without quotes. -/
def unquote (atom : String) : String :=
  String.ofList (unquotedChars atom.toList)

end FootprintTemplate.Sexpr
