import SqlOutline.Outline.Element
import SqlOutline.Piece.Statement
import SqlOutline.Text.Quoted

/-!
# Outlines

An outline is the plain tree view of a statement: the root and all parentheses are nodes without a label,
all other elements are nodes labelled by their kind and text.

* `Outline` : the trees; `Outline.ofElements` builds one;
* `Outline.depth`, `Outline.count`, `Outline.nodes` : height, number of nodes, and the nodes in
  pre-order;
* `Outline.find` : the labels of one kind, in pre-order;
* `Outline.dump` : the text form, one line per node;
* `Outline.tally`, `Outline.kindCounts` : how often every kind occurs, as counted and by rank.
-/

namespace SqlOutline

/-- The label of a node. -/
structure Label where
  /-- The kind of the element. -/
  kind : Kind
  /-- The text of the element. -/
  text : String
deriving DecidableEq, Repr

/-- The tag and the text of a label. -/
def Label.render (l : Label) : String := l.kind.tag ++ ": " ++ l.text

/-- A tree whose nodes may carry a label. -/
inductive Outline where
  /-- A node with its label, if any, and its children. -/
  | node (label : Option Label) (children : List Outline)
deriving Repr

namespace Outline

/-- The label of the root. -/
def label : Outline → Option Label
  | node label _ => label

/-- The trees below the root. -/
def children : Outline → List Outline
  | node _ children => children

/-- Whether the root carries no label. -/
def isStructural (o : Outline) : Bool := o.label.isNone

/-- The child with a given number. -/
def child? (o : Outline) : Int → Option Outline
  | .ofNat n => o.children[n]?
  | .negSucc _ => none

/-- The tree reached by following child numbers. -/
def at? (o : Outline) : List Int → Option Outline
  | [] => some o
  | i :: path => (o.child? i).bind (·.at? path)

/-! ### Building -/

/-- The label of an element; parentheses and subselects have none. -/
def labelOf (kind : Kind) (text : String) : Option Label :=
  match kind with
  | .parenthesis | .subselect => none
  | _ => some ⟨kind, text⟩

mutual

/-- The tree of an element. -/
def ofElement : Element → Outline
  | .mk kind text inner => node (labelOf kind text) (if kind.isGroup then forest inner else [])

/-- The trees of a list of elements. -/
def forest : List Element → List Outline
  | [] => []
  | e :: es => ofElement e :: forest es

end

/-- The outline of the elements of a statement. -/
def ofElements (es : List Element) : Outline := node none (forest es)

/-- The outline of the first statement of a text. -/
def ofSql (sql : String) : Except Statement.FirstError Outline := do
  let s ← Statement.parseFirst sql
  return ofElements (Element.ofPieces s.pieces)

/-! ### Measures and walks -/

mutual

/-- The number of levels. -/
def depth : Outline → Nat
  | node _ children => depthOf children + 1

/-- The number of levels of the deepest of some trees. -/
def depthOf : List Outline → Nat
  | [] => 0
  | o :: os => max o.depth (depthOf os)

end

mutual

/-- The number of nodes. -/
def count : Outline → Nat
  | node _ children => 1 + countOf children

/-- The number of nodes of some trees. -/
def countOf : List Outline → Nat
  | [] => 0
  | o :: os => o.count + countOf os

end

mutual

/-- The subtrees in pre-order, each with its distance from the root, which is given for the root. -/
def walk (level : Nat) : Outline → List (Nat × Outline)
  | node label children => (level, node label children) :: walkAll (level + 1) children

/-- The subtrees of some trees in pre-order, with their distances. -/
def walkAll (level : Nat) : List Outline → List (Nat × Outline)
  | [] => []
  | o :: os => o.walk level ++ walkAll level os

end

/-- All subtrees in pre-order. -/
def nodes (o : Outline) : List Outline := (o.walk 0).map (·.2)

/-- The labels of the tree in pre-order. -/
def labels (o : Outline) : List Label := o.nodes.filterMap (·.label)

/-- The labels of one kind in pre-order. -/
def find (o : Outline) (kind : Kind) : List Label := o.labels.filter (·.kind == kind)

/-! ### Text form -/

/-- A label as it stands in a dump. -/
def showLabel : Option Label → String
  | none => "<group>"
  | some l => l.kind.tag ++ " " ++ Text.quote l.text

/-- The indentation of a level. -/
def indent (level : Nat) : String := String.ofList (List.replicate (2 * level) ' ')

/-- The tree as text: one line per node, indented by its distance from the root. -/
def dump (o : Outline) : String :=
  String.join ((o.walk 0).map fun (level, sub) => indent level ++ showLabel sub.label ++ "\n")

/-! ### Statistics -/

/-- Counts one more occurrence of a kind.  A kind that has no count yet gets one at the end. -/
def countKind (k : Kind) : List (Kind × Nat) → List (Kind × Nat)
  | [] => [(k, 1)]
  | (k', n) :: counts => if k' = k then (k', n + 1) :: counts else (k', n) :: countKind k counts

/-- How often each kind occurs, counted along the walk, so in the order in which the kinds first occur. -/
def tally (o : Outline) : List (Kind × Nat) := o.labels.foldl (fun counts l => countKind l.kind counts) []

/-- Whether a count stands before another one: the greater count does, and of equal counts the one whose
kind comes first. -/
def ranksBefore (a b : Kind × Nat) : Bool :=
  if a.2 = b.2 then decide (a.1.index < b.1.index) else decide (b.2 < a.2)

/-- How often each kind occurs, the most frequent first and kinds of equal count in their order. -/
def kindCounts (o : Outline) : List (Kind × Nat) := o.tally.mergeSort fun a b => !ranksBefore b a

end Outline

end SqlOutline
