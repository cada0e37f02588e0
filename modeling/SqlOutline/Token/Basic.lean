import SqlOutline.Token.LexClass

/-!
# Tokens

A token is a piece of the source text with its lexical class and its place.

* `Position` : a place in a text; `Position.advance` moves it over characters;
* `Token` : class, text and place.
-/

namespace SqlOutline

/-- A place in a text.  Lines and columns count from one, columns in code points; the offset counts
UTF-8 bytes from zero. -/
structure Position where
  /-- The line. -/
  line : Nat
  /-- The column. -/
  column : Nat
  /-- The number of bytes before the place. -/
  offset : Nat
deriving DecidableEq, Repr

namespace Position

/-- The place before the first character. -/
def start : Position := ⟨1, 1, 0⟩

/-- The place after one more character. -/
def next (p : Position) (c : Char) : Position :=
  if c = '\n' then ⟨p.line + 1, 1, p.offset + c.utf8Size⟩
  else ⟨p.line, p.column + 1, p.offset + c.utf8Size⟩

/-- The place after the given characters. -/
def advance (p : Position) (cs : List Char) : Position := cs.foldl next p

/-- The place as `line:column`. -/
def render (p : Position) : String := s!"{p.line}:{p.column}"

@[simp] theorem advance_nil (p : Position) : p.advance [] = p := rfl

@[simp] theorem advance_cons (p : Position) (c : Char) (cs : List Char) :
    p.advance (c :: cs) = (p.next c).advance cs := rfl

@[simp] theorem advance_append (p : Position) (cs ds : List Char) :
    p.advance (cs ++ ds) = (p.advance cs).advance ds := by
  simp [advance]

end Position

/-- A piece of source text with its class and place. -/
structure Token where
  /-- The lexical class. -/
  lexClass : LexClass
  /-- The source text. -/
  text : String
  /-- The place of the first character. -/
  pos : Position
deriving DecidableEq, Repr

namespace Token

/-- The class tag and the text. -/
def render (t : Token) : String := t.lexClass.name ++ ": " ++ t.text

/-- The text with keywords in upper case. -/
def normalized (t : Token) : String :=
  if t.lexClass.isKeyword then Text.upper t.text else t.text

end Token

end SqlOutline
