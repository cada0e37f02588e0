import SqlOutline.Markdown.Html
import SqlOutline.Markdown.Mark

/-!
# Blocks of a Markdown document

* `Code`, `Block` : the blocks that are kept, headings and fenced code;
* `OpenList`, `OpenBlock` : the blocks that lines may still be added to;
* `Stack` : the open blocks, the outermost first.
-/

namespace SqlOutline.Markdown

/-- Fenced code. -/
structure Code where
  /-- The text after the fence. -/
  info : List Char
  /-- The number of the line after the fence. -/
  firstLine : Nat
  /-- The lines of code, the last one first. -/
  lines : List (List Char) := []
deriving DecidableEq, Repr

/-- A block that is kept. -/
inductive Block where
  /-- A heading with its lines, and whether it is the first block of a list item. -/
  | heading (lines : List TextLine) (firstInItem : Bool)
  /-- Fenced code. -/
  | code (c : Code)
deriving DecidableEq, Repr

/-- The blocks with another line in the code that comes last; the blocks come last first. -/
def Block.addCode (line : List Char) : List Block → List Block
  | code c :: bs => code { c with lines := line :: c.lines } :: bs
  | bs => bs

/-- A list that further items may be added to. -/
structure OpenList where
  /-- The last character of the marks of its items. -/
  mark : Char
  /-- The columns that lines inside its last item are indented by. -/
  width : Nat := 0
  /-- Whether nothing is inside its last item. -/
  isEmpty : Bool := true
deriving DecidableEq, Repr

/-- A block that lines may still be added to. -/
inductive OpenBlock where
  | quote
  | list (l : OpenList)
  | item
  /-- A paragraph with its lines, the last one first, and whether it is the first block of a list item. -/
  | paragraph (lines : List TextLine) (firstInItem : Bool)
  | fence (f : Fence)
  /-- An HTML block, and whether its first line ends it. -/
  | html (b : Html.Block) (isOver : Bool)
  | indented
  /-- A block of one line, which no other line is added to. -/
  | line
deriving DecidableEq, Repr

/-- Whether a block is a paragraph. -/
def OpenBlock.isParagraph : OpenBlock → Bool
  | paragraph _ _ => true
  | _ => false

/-- Whether a block is a list. -/
def OpenBlock.isList : OpenBlock → Bool
  | list _ => true
  | _ => false

/-- The open blocks, the outermost first. -/
abbrev Stack := List OpenBlock

namespace Stack

/-- Whether the innermost block is a list item with nothing inside. -/
def inEmptyItem : Stack → Bool
  | [.list l, .item] => l.isEmpty
  | _ :: bs => inEmptyItem bs
  | [] => false

/-- The stack after a block has been put into its innermost block. -/
def fill : Stack → Stack
  | [.list l, .item] => [.list { l with isEmpty := false }, .item]
  | b :: bs => b :: fill bs
  | [] => []

/-- The stack with another block in its innermost block. -/
def push (s : Stack) (b : OpenBlock) : Stack := s.fill ++ [b]

/-- The stack with another item in its innermost block, a list. -/
def pushItem (width : Nat) : Stack → Stack
  | [.list l] => [.list { l with width, isEmpty := true }, .item]
  | b :: bs => b :: pushItem width bs
  | [] => []

/-- The stack with another line at the end of the paragraph inside all other blocks. -/
def addText (text : TextLine) : Stack → Stack
  | [.paragraph lines firstInItem] => [.paragraph (text :: lines) firstInItem]
  | b :: bs => b :: addText text bs
  | [] => []

end Stack

end SqlOutline.Markdown
