import SqlOutline.Token.Basic

/-!
# Pieces of a statement

A statement is a list of pieces.  A piece is a token of the source or a group that stands for a
construct: a parenthesis, a function call, a dotted name and so on.

* `GroupKind` : the constructs;
* `Piece` : a leaf or a group;
* `Piece.ofMembers` : the group made of given pieces, with the text and place that follow from them;
* `Piece.leaves` : the tokens below a piece, in source order.
-/

namespace SqlOutline

/-- The construct that a group stands for. -/
inductive GroupKind where
  | statement | parenthesis | function | identifier | identifierList | comparison | operation
  | whereClause | caseExpression
deriving DecidableEq, Repr

namespace GroupKind

/-- Every kind of group, in the order of its number. -/
def all : List GroupKind :=
  [statement, parenthesis, function, identifier, identifierList, comparison, operation, whereClause,
    caseExpression]

/-- The tag of a kind of group. -/
def name : GroupKind → String
  | statement => "Statement"
  | parenthesis => "Parenthesis"
  | function => "Function"
  | identifier => "Identifier"
  | identifierList => "IdentifierList"
  | comparison => "Comparison"
  | operation => "Operation"
  | whereClause => "Where"
  | caseExpression => "Case"

/-- The role of a piece with a given number: zero is a leaf, the numbers from one on are the kinds of
group, and all other numbers have no meaning. -/
def ofNumber? : Int → Option (Option GroupKind)
  | .ofNat 0 => some none
  | .ofNat (n + 1) => all[n]?.map some
  | .negSucc _ => none

/-- The tag of a role given by its number. -/
def roleName (number : Int) : String :=
  match ofNumber? number with
  | some none => "NotGroup"
  | some (some kind) => kind.name
  | none => "UNKNOWN"

end GroupKind

/-- A token, or a group of pieces. -/
inductive Piece where
  /-- A token of the source. -/
  | leaf (token : Token)
  /-- A construct with the source text that it covers and its place. -/
  | group (kind : GroupKind) (text : String) (pos : Position) (members : List Piece)
deriving Repr

namespace Piece

/-! ### Parts of a piece -/

/-- The source text of a piece. -/
def text : Piece → String
  | leaf t => t.text
  | group _ text _ _ => text

/-- The place of a piece. -/
def pos : Piece → Position
  | leaf t => t.pos
  | group _ _ pos _ => pos

/-- The kind of a group, nothing for a leaf. -/
def kind? : Piece → Option GroupKind
  | leaf _ => none
  | group kind _ _ _ => some kind

/-- The lexical class of a leaf, nothing for a group. -/
def lexClass? : Piece → Option LexClass
  | leaf t => some t.lexClass
  | group _ _ _ _ => none

/-- The pieces that a group is made of. -/
def members : Piece → List Piece
  | leaf _ => []
  | group _ _ _ members => members

/-- Whether the piece is a leaf of the class. -/
def isLeaf (p : Piece) (lexClass : LexClass) : Bool := p.lexClass? == some lexClass

/-- Whether the piece is a leaf of one of the classes. -/
def isLeafOf (p : Piece) (classes : List LexClass) : Bool :=
  match p with
  | leaf t => classes.contains t.lexClass
  | group _ _ _ _ => false

/-- Whether the piece is white space or a comment. -/
def isTrivia : Piece → Bool
  | leaf t => t.lexClass.isTrivia
  | group _ _ _ _ => false

/-- The tag and the text of a piece. -/
def render : Piece → String
  | leaf t => t.render
  | group kind text _ _ => kind.name ++ ": " ++ text

/-! ### Lists of pieces -/

/-- The text that a list of pieces covers. -/
def joinText (ps : List Piece) : String := String.join (ps.map text)

/-- The first piece that is neither white space nor a comment. -/
def firstSignificant? (ps : List Piece) : Option Piece := ps.find? (!·.isTrivia)

/-- The group of a kind made of the given pieces.  Its text is the text of its members and its place that
of the first one. -/
def ofMembers (kind : GroupKind) (members : List Piece) : Piece :=
  group kind (joinText members) ((members.head?.map pos).getD ⟨0, 0, 0⟩) members

mutual

/-- The tokens below a piece, in source order. -/
def leaves : Piece → List Token
  | leaf t => [t]
  | group _ _ _ members => leavesOf members

/-- The tokens below a list of pieces, in source order. -/
def leavesOf : List Piece → List Token
  | [] => []
  | p :: ps => p.leaves ++ leavesOf ps

end

end Piece

end SqlOutline
