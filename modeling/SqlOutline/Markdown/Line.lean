import SqlOutline.Text.Space

/-!
# Lines of a Markdown document

* `Markdown.isSpace`, `Markdown.isBlank`, `Markdown.trimStart`, `Markdown.trimEnd` : the white space that Markdown
  knows: spaces, tabs and line ends;
* `Markdown.indentWidth`, `Markdown.indentPosition?` : the width of the indentation of a line, and where some
  columns of it end.  A tab reaches to the next multiple of four columns;
* `TextLine` : a line of a paragraph or heading;
* `Cursor` : a place in a document.  Of a tab that is passed over in part, the other columns are the `padding`
  before the rest of the line.
-/

namespace SqlOutline.Markdown

/-- Whether a character is white space. -/
def isSpace (c : Char) : Bool := c == ' ' || c == '\t' || c == '\n' || c == '\r'

/-- Whether a line has nothing but white space. -/
def isBlank (cs : List Char) : Bool := cs.all isSpace

/-- A text without white space at its start. -/
def trimStart (cs : List Char) : List Char := cs.dropWhile isSpace

/-- A text without white space at its end. -/
def trimEnd (cs : List Char) : List Char := Text.dropEndWhile isSpace cs

/-- Whether a character may indent a line. -/
def isIndent (c : Char) : Bool := c == ' ' || c == '\t'

/-- The number of columns of a tab. -/
def tabWidth (column : Nat) : Nat := 4 - column % 4

/-- The number of columns of the spaces and tabs at the start of a text. -/
def indentWidth : (column : Nat) → List Char → Nat
  | column, c :: cs =>
    if c = ' ' then 1 + indentWidth (column + 1) cs
    else if c = '\t' then tabWidth column + indentWidth (column + tabWidth column) cs
    else 0
  | _, [] => 0

/-- The number of spaces and tabs at the start of a text. -/
def indentLength (cs : List Char) : Nat := (cs.takeWhile isIndent).length

/-- Passes over the indentation of a text until `width` columns have been seen, `seen` of them before.  The
result is the number of columns seen and the number of characters passed over. -/
def passColumns (width column : Nat) : (seen : Nat) → List Char → Nat × Nat
  | seen, [] => (seen, 0)
  | seen, c :: cs =>
    if seen < width && isIndent c then
      let step := if c == '\t' then tabWidth (column + seen) else 1
      let (total, passed) := passColumns width column (seen + step) cs
      (total, passed + 1)
    else (seen, 0)

/-- The number of characters up to a width of the indentation, and the columns of the last of them that are
beyond it; `none` when the indentation is less. -/
def indentPosition? (width column : Nat) (cs : List Char) : Option (Nat × Nat) :=
  let (seen, passed) := passColumns width column 0 cs
  if seen ≥ width then some (passed, seen - width) else none

/-- The lines of a document, each with the line feed that ends it. -/
def splitLines : List Char → List (List Char)
  | [] => []
  | c :: cs =>
    if c = '\n' then [c] :: splitLines cs
    else
      match splitLines cs with
      | [] => [[c]]
      | line :: lines => (c :: line) :: lines

/-- A line of a text that may be part of a longer line. -/
structure TextLine where
  /-- The character before it. -/
  before : Char := '\n'
  /-- Its characters. -/
  chars : List Char
deriving DecidableEq, Repr

/-- The line without white space at its end. -/
def TextLine.trimEnd (l : TextLine) : TextLine := { l with chars := Markdown.trimEnd l.chars }

/-! ### Places -/

/-- A place in a document. -/
structure Cursor where
  /-- The number of the line, counted from one. -/
  line : Nat := 1
  /-- The column of the rest of the line. -/
  column : Nat := 0
  /-- The columns of a tab before the rest of the line. -/
  padding : Nat := 0
  /-- The character before the rest of the line. -/
  before : Char := '\n'
  /-- The rest of the line; empty at the end of the document only. -/
  rest : List Char
  /-- The lines that follow. -/
  ahead : List (List Char)
deriving DecidableEq, Repr

namespace Cursor

/-- The start of the first of some lines. -/
def ofLines : List (List Char) → Cursor
  | [] => { rest := [], ahead := [] }
  | line :: lines => { rest := line, ahead := lines }

/-- The start of a document. -/
def start (cs : List Char) : Cursor := ofLines (splitLines cs)

/-- Whether the document ends here. -/
def isDone (c : Cursor) : Bool := c.rest.isEmpty

/-- The rest of the line with the padding before it. -/
def view (c : Cursor) : List Char := List.replicate c.padding ' ' ++ c.rest

/-- The column where the padding starts. -/
def offset (c : Cursor) : Nat := c.column - c.padding

/-- The width of the indentation. -/
def indent (c : Cursor) : Nat := indentWidth c.offset c.view

/-- Whether nothing but white space is left of the line. -/
def isBlank (c : Cursor) : Bool := Markdown.isBlank c.view

/-- The start of the next line. -/
def nextLine (c : Cursor) : Cursor :=
  match c.ahead with
  | [] => { line := c.line + 1, rest := [], ahead := [] }
  | line :: lines => { line := c.line + 1, rest := line, ahead := lines }

/-- The place some characters further on. -/
def advance (c : Cursor) : (n : Nat) → Cursor
  | 0 => c
  | n + 1 =>
    if c.padding > 0 then { c with padding := c.padding - 1 }.advance n
    else
      match c.rest with
      | [] => c
      | d :: rest =>
        if d = '\n' then c.nextLine.advance n
        else
          { c with column := c.column + if d = '\t' then tabWidth c.column else 1, before := d, rest }.advance n

/-- The place some characters further on, with at least the given padding before it. -/
def advanceTo (c : Cursor) (n padding : Nat) : Cursor :=
  let c := c.advance n
  { c with padding := max c.padding padding }

/-- The end of the line, before its line feed. -/
def lineEnd (c : Cursor) : Cursor := { c with padding := 0, rest := c.rest.dropWhile (· != '\n') }

/-- The rest of the line as text, without white space at its start. -/
def textLine (c : Cursor) : TextLine :=
  let chars := trimStart c.rest
  { before := if chars.length = c.rest.length then c.before else ' ', chars }

/-- All that follows. -/
def text (c : Cursor) : List Char := c.rest ++ c.ahead.flatten

/-- The place after white space, which may go on over lines. -/
def skipSpace (c : Cursor) : Cursor := c.advance (c.text.takeWhile isSpace).length

end Cursor

end SqlOutline.Markdown
