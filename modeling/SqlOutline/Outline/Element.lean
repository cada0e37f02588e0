import SqlOutline.Outline.Kind

/-!
# Outline elements

An element carries its kind, a text and, for groups, the elements inside it.

* `Element` : the elements; `Element.ofPiece` makes them from the pieces of a statement.  A leaf has its
  normalized text, a group the source text that it covers, and a parenthesis around a query is a
  subselect;
* `Element.texts` : the texts of the leaves, in source order.
-/

namespace SqlOutline

/-- An element of an outline. -/
inductive Element where
  /-- An element of a kind with a text and inner elements. -/
  | mk (kind : Kind) (text : String) (inner : List Element)
deriving Repr

namespace Element

/-- The kind of an element. -/
def kind : Element → Kind
  | mk kind _ _ => kind

/-- The text of an element. -/
def text : Element → String
  | mk _ text _ => text

/-- The elements inside an element. -/
def inner : Element → List Element
  | mk _ _ inner => inner

/-- Whether the element is a group. -/
def isGroup (e : Element) : Bool := e.kind.isGroup

/-- The tag and the text of an element. -/
def render (e : Element) : String := e.kind.tag ++ ": " ++ e.text

/-- The first inner element that is neither white space nor a comment. -/
def firstSignificant? (e : Element) : Option Element :=
  e.inner.find? fun i => i.kind != .whitespace && i.kind != .comment

/-! ### Elements of a statement -/

/-- Whether the first significant piece after the opening parenthesis starts a query. -/
def opensQuery (members : List Piece) : Bool :=
  match members.find? fun p => !(p.isTrivia || p.isLeaf .openParen) with
  | some p => p.isLeafOf [.keyword .SELECT, .keyword .WITH]
  | none => false

mutual

/-- The element of a piece. -/
def ofPiece : Piece → Element
  | .leaf t => mk (.ofLexClass t.lexClass) t.normalized []
  | .group kind text _ members =>
    let kind := if kind = .parenthesis ∧ opensQuery members then .subselect else .ofGroup kind
    mk kind text (ofPieces members)

/-- The elements of a list of pieces. -/
def ofPieces : List Piece → List Element
  | [] => []
  | p :: ps => ofPiece p :: ofPieces ps

end

/-! ### Leaves -/

mutual

/-- The texts of the leaves of an element, in source order. -/
def texts : Element → List String
  | mk kind text inner => if kind.isGroup then textsOf inner else [text]

/-- The texts of the leaves of a list of elements, in source order. -/
def textsOf : List Element → List String
  | [] => []
  | e :: es => e.texts ++ textsOf es

end

end Element

end SqlOutline
