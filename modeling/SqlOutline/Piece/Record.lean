import SqlOutline.Piece.Basic

/-!
# Records of pieces

A record is a piece as it may be written down by hand: its role is a number, and members may be given for
leaves too.

* `Record` : a role, a lexical class, a text and members;
* `Record.toPiece` : the piece that a record stands for, if its role has a meaning;
* `Record.firstSignificant?` : the first member that is neither white space nor a comment.
-/

namespace SqlOutline

/-- A piece written down by hand. -/
inductive Record where
  | mk (role : Int) (lexClass : LexClass) (text : String) (members : List Record)
deriving Repr

/-- The number of a role without a meaning. -/
structure UnknownRole where
  /-- The number. -/
  number : Int
deriving DecidableEq, Repr

/-- The wording of the error. -/
def UnknownRole.message (e : UnknownRole) : String :=
  "tree: no kind for group type " ++ GroupKind.roleName e.number

namespace Record

/-- The tag and the text of a record. -/
def render : Record → String
  | mk role lexClass text _ =>
    (if role = 0 then lexClass.name else GroupKind.roleName role) ++ ": " ++ text

/-- Whether a record is white space or a comment. -/
def isTrivia : Record → Bool
  | mk role lexClass _ _ => role == 0 && lexClass.isTrivia

/-- The first member that is neither white space nor a comment. -/
def firstSignificant? : Record → Option Record
  | mk _ _ _ members => members.find? (!·.isTrivia)

mutual

/-- The piece that a record stands for.  The members of a leaf are left out. -/
def toPiece : Record → Except UnknownRole Piece
  | mk role lexClass text members =>
    match GroupKind.ofNumber? role with
    | none => .error ⟨role⟩
    | some none => .ok (.leaf ⟨lexClass, text, ⟨0, 0, 0⟩⟩)
    | some (some kind) => (toPieces members).map (.group kind text ⟨0, 0, 0⟩)

/-- The pieces that records stand for. -/
def toPieces : List Record → Except UnknownRole (List Piece)
  | [] => .ok []
  | r :: rs =>
    match toPiece r with
    | .error e => .error e
    | .ok p => (toPieces rs).map (p :: ·)

end

end Record

end SqlOutline
