import SqlOutline.Markdown.Line

/-!
# Marks of Markdown blocks

What the start of a line tells about the block that it belongs to.

* `quoteMark?` : the mark of a block quote;
* `ItemMark`, `itemMark?` : the mark of a list item;
* `isThematicBreak`, `underline?`, `headingText?` : thematic breaks and headings;
* `Fence`, `fence?` : fenced code.
-/

namespace SqlOutline.Markdown

/-- The place behind the mark of a block quote, and behind one column of white space after it. -/
def quoteMark? (c : Cursor) : Option Cursor :=
  let n := indentLength c.view
  if c.indent > 3 then none
  else
    match c.view.drop n with
    | '>' :: rest =>
      let inner := c.advance (n + 1)
      match rest with
      | ' ' :: _ => some (inner.advance 1)
      | '\t' :: _ => some (inner.advanceTo 1 (tabWidth inner.offset - 1))
      | _ => some inner
    | _ => none

/-! ### Lists -/

/-- The mark of a list item. -/
structure ItemMark where
  /-- The last character of the mark, by which lists are told apart. -/
  mark : Char
  /-- The number of an ordered item. -/
  number : Option Nat
  /-- The number of characters up to the end of the mark. -/
  width : Nat
  /-- The characters after the mark. -/
  after : List Char
deriving DecidableEq, Repr

/-- The mark of a list item at the start of a line.  At most three spaces stand before it, and a blank or
nothing after it. -/
def itemMark? (line : List Char) : Option ItemMark :=
  let spaces := (line.takeWhile (· == ' ')).length
  let body := line.drop spaces
  let closed := fun (m : ItemMark) =>
    match m.after with
    | [] => some m
    | c :: _ => if c = '\n' ∨ isIndent c then some m else none
  if spaces > 3 then none
  else
    match body with
    | [] => none
    | c :: rest =>
      if c = '-' ∨ c = '*' ∨ c = '+' then closed ⟨c, none, spaces + 1, rest⟩
      else
        let digits := body.takeWhile (·.isDigit)
        match body.drop digits.length with
        | d :: rest =>
          if (d = '.' ∨ d = ')') ∧ digits ≠ [] ∧ digits.length ≤ 9 then
            closed ⟨d, some (digits.foldl (fun n c => n * 10 + (c.toNat - 48)) 0),
              spaces + digits.length + 1, rest⟩
          else none
        | [] => none

/-- Whether nothing stands behind the mark. -/
def ItemMark.isEmpty (m : ItemMark) : Bool := isBlank m.after

/-- The columns between the mark of an item and its text.  Text that is indented like code, and no text at
all, count as one column. -/
def ItemMark.gap (m : ItemMark) : Nat :=
  let width := indentWidth m.width m.after
  if m.isEmpty || width > 4 then 1 else width

/-! ### Breaks and headings -/

/-- Whether a line is a thematic break. -/
def isThematicBreak (column : Nat) (line : List Char) : Bool :=
  let marks := line.filter (!isSpace ·)
  match marks with
  | c :: _ =>
    decide (indentWidth column line ≤ 3) && (c == '*' || c == '-' || c == '_') && marks.all (· == c)
      && decide (marks.length ≥ 3) && (line.drop (indentLength line)).head? == some c
  | [] => false

/-- The mark with which a line underlines a heading. -/
def underline? (line : List Char) : Option Char :=
  let spaces := (line.takeWhile (· == ' ')).length
  match trimEnd (line.drop spaces) with
  | c :: cs => if spaces ≤ 3 ∧ (c = '=' ∨ c = '-') ∧ cs.all (· == c) then some c else none
  | [] => none

/-- The text of a heading that starts with number signs. -/
def headingText? (body : List Char) : Option (List Char) :=
  let signs := (body.takeWhile (· == '#')).length
  let rest := body.drop signs
  if signs = 0 ∨ signs > 6 then none
  else
    match rest with
    | [] => some []
    | c :: _ =>
      if isSpace c then
        let text := trimEnd (trimStart rest)
        let kept := Text.dropEndWhile (· == '#') text
        if kept = [] then some []
        else if kept.getLast?.any isSpace then some (trimEnd kept)
        else some text
      else none

/-! ### Fences -/

/-- The fence that opens code. -/
structure Fence where
  /-- The character of the fence. -/
  mark : Char
  /-- The length of the fence. -/
  length : Nat
  /-- The number of characters before the fence. -/
  indent : Nat
  /-- The text after the fence. -/
  info : List Char
deriving DecidableEq, Repr

/-- The fence that a line opens, `indent` characters after its start.  Text after backticks must not hold one,
and a single character at the end of the document does not count. -/
def fence? (indent : Nat) (body : List Char) : Option Fence :=
  match body with
  | mark :: _ =>
    if mark = '\x60' ∨ mark = '~' then
      let length := (body.takeWhile (· == mark)).length
      let after := body.drop length
      let info := if (String.ofList after).utf8ByteSize > 1 then trimEnd (trimStart after) else []
      if length < 3 ∨ (mark = '\x60' ∧ info.contains mark) then none
      else some { mark, length, indent, info }
    else none
  | [] => none

/-- Whether a line closes a fence. -/
def Fence.isClosedBy (f : Fence) (c : Cursor) : Bool :=
  let body := c.view.drop (indentLength c.view)
  let length := (body.takeWhile (· == f.mark)).length
  decide (c.indent < 4) && decide (length ≥ f.length) && isBlank (body.drop length)

/-- The code of a line inside a fence.  As many columns as the fence has characters before it are taken away;
where there are fewer, the characters before the text. -/
def Fence.codeOf (f : Fence) (c : Cursor) : List Char :=
  let text :=
    if f.indent = 0 then c.view
    else
      let (seen, passed) := passColumns f.indent c.offset c.padding c.rest
      if seen ≥ f.indent then List.replicate (seen - f.indent) ' ' ++ c.rest.drop passed
      else
        let n := indentLength c.view
        c.rest.drop (if (c.view.drop n).head?.all (· == '\n') then 0 else n)
  text.filter (· != '\n')

end SqlOutline.Markdown
