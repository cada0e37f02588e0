import SqlOutline.Markdown.Line

/-!
# Tables

A paragraph holds a table from the line before its first delimiter row on, if that line has no more cells
than the delimiter row.
-/

namespace SqlOutline.Markdown.Table

/-- The parts of a line between its bars. -/
def splitBars : List Char → List (List Char)
  | [] => [[]]
  | c :: cs =>
    if c = '|' then [] :: splitBars cs
    else
      match splitBars cs with
      | [] => [[c]]
      | part :: parts => (c :: part) :: parts

/-- Whether a cell of a delimiter row is well formed: hyphens, with a colon at either end if need be. -/
def isDelimiterCell (cell : List Char) : Bool :=
  let inner := trimStart (trimEnd cell)
  let inner := if inner.head? = some ':' then inner.drop 1 else inner
  let inner := if inner.getLast? = some ':' then inner.dropLast else inner
  !inner.isEmpty && inner.all (· == '-')

/-- The number of cells of a delimiter row.  A row of hyphens alone is none. -/
def delimiterCells? (line : List Char) : Option Nat :=
  if line.all (· == '-') || !line.all (fun c => isSpace c || c == '-' || c == '|' || c == ':') then none
  else
    let cells := splitBars line
    let cells := if cells.head?.any isBlank then cells.drop 1 else cells
    let cells := if cells.getLast?.any isBlank then cells.dropLast else cells
    if cells.isEmpty || !cells.all isDelimiterCell then none else some cells.length

/-- The number of cells of a row; a bar after a backslash divides no cells. -/
def rowCells (line : List Char) : Nat :=
  let inner := trimStart (trimEnd line)
  let inner := if inner.head? = some '|' then inner.drop 1 else inner
  let inner := if inner.getLast? = some '|' then inner.dropLast else inner
  let rec count (last : Char) : List Char → Nat
    | [] => 0
    | c :: cs => (if c = '|' ∧ last ≠ '\\' ∧ cs ≠ [] then 1 else 0) + count c cs
  if inner.isEmpty then 0 else 1 + count ' ' inner

/-- The number of lines of a paragraph before its table, or `none` when there is no table in it. -/
def linesBefore? : List (List Char) → Option Nat
  | header :: row :: lines =>
    match delimiterCells? row with
    | some n => if rowCells header ≤ n then some 0 else none
    | none => (linesBefore? (row :: lines)).map (· + 1)
  | _ => none

end SqlOutline.Markdown.Table
