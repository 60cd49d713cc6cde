import FootprintTemplate.Writer.Rule
import FootprintTemplate.Sexpr.Node

/-! Rewriting of trees by rule. A node gets its new items from its rule, once its own items have
been rewritten. -/
namespace FootprintTemplate.Writer

open Sexpr (Item Node)

/-- An item of a node and what it becomes. -/
structure Rewritten where
  source : Item
  result : Item

def results (pieces : List Rewritten) : List Item :=
  pieces.map Rewritten.result

def isMirrorWord (item : Item) : Bool :=
  item.atom? == some "mirror"

def isJustify : Item → Bool
  | .atom _ => false
  | .node kind _ => kind == "justify"

/-- What becomes of words, and of the items of a node by its rule and kind. -/
structure Rewriting where
  word : String → String
  arrange : Rule → String → List Rewritten → List Item

namespace Rewriting

mutual
/-- An item in a parent of the given kind. -/
def item (r : Rewriting) (parent : Option String) : Item → Item
  | .atom text => .atom (r.word text)
  | .node kind inner =>
    .node (r.word kind) (r.arrange (Rule.select parent kind) kind (r.items kind inner))

/-- The items of a node of the given kind with what they become. -/
def items (r : Rewriting) (kind : String) : List Item → List Rewritten
  | [] => []
  | first :: rest => ⟨first, r.item (some kind) first⟩ :: r.items kind rest
end

variable (r : Rewriting)

theorem items_eq_map (kind : String) (inner : List Item) :
    r.items kind inner = inner.map fun item => ⟨item, r.item (some kind) item⟩ := by
  induction inner with
  | nil => rfl
  | cons first rest ih => rw [items, ih]; rfl

theorem any_source (kind : String) (inner : List Item) (test : Item → Bool) :
    (r.items kind inner).any (test ·.source) = inner.any test := by
  rw [items_eq_map, List.any_map]
  rfl

theorem filter_source (kind : String) (inner : List Item) (test : Item → Bool) :
    (r.items kind inner).filter (test ·.source) = r.items kind (inner.filter test) := by
  simp only [items_eq_map, List.filter_map]
  rfl

/-- A node in a parent of the given kind. -/
def node (parent : Option String) (node : Node) : Node :=
  ⟨r.word node.kind,
    r.arrange (Rule.select parent node.kind) node.kind (r.items node.kind node.items)⟩

end Rewriting

end FootprintTemplate.Writer
