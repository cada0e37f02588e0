import SqlOutline.Piece.Rules
import SqlOutline.Token.Parens

/-!
# Statements

A text is a sequence of statements, each ended by a semicolon outside parentheses.

* `Statement` : the pieces of a statement;
* `Statement.split` : cuts a token list after every such semicolon;
* `Statement.nest` : turns the parentheses of a token list into groups, from the inside out, and groups
  every level;
* `Statement.parse` : the statements of a text, without those that have nothing but white space and
  comments.
-/

namespace SqlOutline

/-- The pieces of one statement. -/
structure Statement where
  /-- The pieces of the outermost level. -/
  pieces : List Piece
deriving Repr

namespace Statement

/-- The source text of a statement. -/
def text (s : Statement) : String := Piece.joinText s.pieces

/-- The tokens of a statement, in source order. -/
def leaves (s : Statement) : List Token := Piece.leavesOf s.pieces

/-! ### Cutting a token list -/

/-- Cuts after every semicolon outside parentheses, at a given depth of open parentheses. -/
def splitFrom : (depth : Nat) → List Token → List (List Token)
  | _, [] => []
  | depth, t :: ts =>
    if t.lexClass = .semicolon ∧ depth = 0 then [t] :: splitFrom 0 ts
    else
      let inner :=
        match t.lexClass with
        | .openParen => depth + 1
        | .closeParen => depth - 1
        | _ => depth
      match splitFrom inner ts with
      | [] => [[t]]
      | chunk :: chunks => (t :: chunk) :: chunks

/-- Cuts after every semicolon outside parentheses. -/
def split (ts : List Token) : List (List Token) := splitFrom 0 ts

/-- Whether a token list has more than white space and comments. -/
def isSignificant (ts : List Token) : Bool := ts.any (!·.lexClass.isTrivia)

/-! ### Nesting -/

/-- Groups the rest of a token list.  The stack holds the parentheses that are open, the latest one first,
each with the pieces before it; these and the pieces of the current level come in reverse order. -/
def nestFrom : (stack : List (Token × List Piece)) → (level : List Piece) → List Token →
    Except ParenError (List Piece)
  | [], level, [] => .ok (Rules.groupLevel level.reverse)
  | (opening, _) :: _, _, [] => .error (.unmatchedOpen opening.pos)
  | stack, level, t :: ts =>
    match t.lexClass with
    | .openParen => nestFrom ((t, level) :: stack) [] ts
    | .closeParen =>
      match stack with
      | [] => .error (.unmatchedClose t.pos)
      | (opening, outer) :: stack =>
        let members := Piece.leaf opening :: Rules.groupLevel level.reverse ++ [Piece.leaf t]
        nestFrom stack (Piece.ofMembers .parenthesis members :: outer) ts
    | _ => nestFrom stack (.leaf t :: level) ts

/-- Groups a token list whose parentheses match. -/
def nest (ts : List Token) : Except ParenError (List Piece) := nestFrom [] [] ts

/-- The statements of a text. -/
def parse (sql : String) : Except MalformedSql (List Statement) := do
  let ts ← balancedTokens sql
  ((split ts).filter isSignificant).mapM fun chunk =>
    match nest chunk with
    | .ok pieces => .ok ⟨pieces⟩
    | .error e => .error (.parens e)

/-- Why no statement can be taken from a text. -/
inductive FirstError where
  /-- The text is malformed. -/
  | malformed (e : MalformedSql)
  /-- The text has only white space and comments. -/
  | noStatement
deriving DecidableEq, Repr

/-- The wording of the reason. -/
def FirstError.message : FirstError → String
  | .malformed e => e.message
  | .noStatement => "no statement found"

/-- The first statement of a text. -/
def parseFirst (sql : String) : Except FirstError Statement :=
  match parse sql with
  | .error e => .error (.malformed e)
  | .ok [] => .error .noStatement
  | .ok (s :: _) => .ok s

end Statement

end SqlOutline
