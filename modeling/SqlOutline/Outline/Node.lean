import SqlOutline.Outline.Element

/-!
# Exported nodes

A node is the form in which an element is written to a document and read from one.

* `Node` : tag, text, whether it is a group, and children;
* `Node.ofElement`, `Node.ofElements` : the nodes of elements;
* `Node.root` : the node around a whole statement;
* `Node.process` : the nodes of a statement that is not empty.
-/

namespace SqlOutline

/-- A node of an exported tree. -/
inductive Node where
  /-- A node with a tag, a text, whether it is a group, and its children. -/
  | mk (tag text : String) (isGroup : Bool) (children : List Node)
deriving Repr

namespace Node

/-- The tag of a node. -/
def tag : Node → String
  | mk tag _ _ _ => tag

/-- The text of a node. -/
def text : Node → String
  | mk _ text _ _ => text

/-- Whether a node is a group. -/
def isGroup : Node → Bool
  | mk _ _ isGroup _ => isGroup

/-- The children of a node. -/
def children : Node → List Node
  | mk _ _ _ children => children

/-- The node without content. -/
def empty : Node := mk "" "" false []

instance : Inhabited Node := ⟨empty⟩

mutual

/-- Whether two nodes agree in everything. -/
def beq : Node → Node → Bool
  | mk t v g cs, mk t' v' g' cs' => t == t' && v == v' && g == g' && beqAll cs cs'

/-- Whether two lists of nodes agree in everything. -/
def beqAll : List Node → List Node → Bool
  | [], [] => true
  | n :: ns, m :: ms => beq n m && beqAll ns ms
  | _, _ => false

end

instance : BEq Node := ⟨beq⟩

mutual

/-- The node of an element, with those of its inner elements when it is a group. -/
def ofElement : Element → Node
  | .mk kind text inner =>
    mk kind.tag text kind.isGroup (if kind.isGroup then ofElements inner else [])

/-- The nodes of a list of elements. -/
def ofElements : List Element → List Node
  | [] => []
  | e :: es => ofElement e :: ofElements es

end

theorem ofElements_ofPieces (ps : List Piece) :
    ofElements (Element.ofPieces ps) = ps.map fun p => ofElement (.ofPiece p) := by
  induction ps with
  | nil => rfl
  | cons p ps ih => rw [Element.ofPieces, ofElements, ih, List.map_cons]

/-- The tag of the node around a whole statement. -/
def rootTag : String := "ROOT"

/-- The node around a whole statement. -/
def root (text : String) (children : List Node) : Node := mk rootTag text true children

/-- The nodes of the elements of a statement, which must not be empty. -/
def process : List Element → Option (List Node)
  | [] => none
  | es => some (ofElements es)

end Node

end SqlOutline
