import SqlOutline.Markdown.Block
import SqlOutline.Markdown.Reference
import SqlOutline.Markdown.Table

/-!
# The block structure of a Markdown document

A document is read line by line.  Each line first goes on with the blocks that are open, from the outermost
inward.  Where one of them ends, new blocks start in the block around it; but a paragraph takes up a line that
starts no block, even if the blocks around it end.

* `State` : the state between two steps;
* `State.starter` : the block that starts at a place, if it is one of those that a mark tells;
* `State.start` : starts all blocks that a line starts;
* `State.keep` : goes on with an open block;
* `State.addLine` : the state after one more line;
* `Document.parse` : the blocks of a document and the link labels that it defines.
-/

namespace SqlOutline.Markdown

/-- The state between two steps. -/
structure State where
  /-- The place that has been reached. -/
  cursor : Cursor
  /-- Whether a list has just ended an item, so that an item starts next and no other list. -/
  endsItem : Bool := false
  /-- Whether a blank line has come while the last item was empty. -/
  sawBlank : Bool := false
  /-- The blocks that are kept, the last one first.  Open code is the first of them. -/
  blocks : List Block := []
  /-- The link labels that have been defined. -/
  labels : List Label := []

/-- Where new blocks start. -/
structure Spot where
  /-- The blocks around the place, old and new ones. -/
  above : Stack
  /-- The other open blocks. -/
  below : Stack
  /-- Whether a block has been started. -/
  isNew : Bool := false

namespace Spot

/-- The innermost open block. -/
def last? (s : Spot) : Option OpenBlock := if s.isNew then s.above.getLast? else (s.above ++ s.below).getLast?

/-- Whether a paragraph is open. -/
def inParagraph (s : Spot) : Bool := !s.isNew && s.last?.any (·.isParagraph)

/-- The paragraph that is open in the same block. -/
def paragraph? (s : Spot) : Option (List TextLine × Bool) :=
  match s.below with
  | [.paragraph lines firstInItem] => if s.isNew then none else some (lines, firstInItem)
  | _ => none

/-- The place inside a new block. -/
def enter (s : Spot) (b : OpenBlock) : Spot := { s with above := s.above.push b, isNew := true }

end Spot

namespace State

/-! ### New blocks -/

/-- The result of looking for a block. -/
inductive Found where
  /-- There is none. -/
  | nothing (st : State)
  /-- A block that has no other blocks on this line. -/
  | leaf (spot : Spot) (st : State)
  /-- A block with others inside, or none but the paragraph before has gone. -/
  | more (spot : Spot) (st : State)

/-- Another block, if the first is none. -/
def Found.orElse (f : Found) (next : State → Found) : Found :=
  match f with
  | nothing st => next st
  | f => f

/-- Makes a heading of the paragraph before an underline.  Without text besides definitions and tables there
is none. -/
def underlined (spot : Spot) (st : State) : Found :=
  match spot.paragraph?, underline? st.cursor.view with
  | some (lines, firstInItem), some _ =>
    let ended := match lines with
      | last :: lines => (last.trimEnd :: lines).reverse
      | [] => []
    let (labels, text) := Definition.split ended
    let st := { st with labels := st.labels ++ labels }
    let rest : Spot := { spot with below := [] }
    let heading := fun (text : List TextLine) (first : Bool) =>
      Found.leaf (rest.enter .line) { st with blocks := .heading text first :: st.blocks }
    match text, Table.linesBefore? (text.map (·.chars)) with
    | [], _ => .more rest st
    | _, some 0 => .more rest st
    | _, some n =>
      heading ((text.take n).mapIdx fun i l => if i + 1 = n then { l with chars := l.chars.dropLast } else l) false
    | _, none => heading text firstInItem
  | _, _ => .nothing st

/-- Starts a thematic break. -/
def ruled (spot : Spot) (st : State) : Found :=
  if isThematicBreak st.cursor.offset st.cursor.view then .leaf (spot.enter .line) st else .nothing st

/-- Starts a list.  In place of a paragraph only an item with text starts one, and if it is numbered then with
number one. -/
def listed (spot : Spot) (st : State) : Found :=
  if st.endsItem || spot.last?.any (·.isList) then .nothing { st with endsItem := false }
  else
    match itemMark? st.cursor.view with
    | none => .nothing st
    | some m =>
      if spot.paragraph?.isSome && (m.number.any (· != 1) || m.isEmpty) then .nothing st
      else .more (spot.enter (.list { mark := m.mark })) { st with sawBlank := false }

/-- Starts an item in a list. -/
def itemized (spot : Spot) (st : State) : Found :=
  if !spot.above.getLast?.any (·.isList) then .nothing st
  else
    match itemMark? st.cursor.view with
    | none => .nothing st
    | some m =>
      let inner : Spot := { spot with above := spot.above.pushItem (m.width + m.gap), isNew := true }
      let st := { st with sawBlank := false }
      if m.isEmpty then .leaf inner st
      else
        let (passed, padding) := (indentPosition? m.gap m.width m.after).getD (0, 0)
        .more inner { st with cursor := st.cursor.advanceTo (m.width + passed) padding }

/-- Starts a block quote. -/
def quoted (spot : Spot) (st : State) : Found :=
  match quoteMark? st.cursor with
  | some inner => .more (spot.enter .quote) { st with cursor := inner }
  | none => .nothing st

/-- Starts a heading. -/
def headed (body : List Char) (spot : Spot) (st : State) : Found :=
  match headingText? body with
  | some text =>
    let lines : List TextLine := if text = [] then [] else [{ chars := text }]
    .leaf (spot.enter .line) { st with blocks := .heading lines spot.above.inEmptyItem :: st.blocks }
  | none => .nothing st

/-- Starts fenced code. -/
def fenced (body : List Char) (spot : Spot) (st : State) : Found :=
  match fence? (st.cursor.view.length - body.length) body with
  | some f =>
    .leaf (spot.enter (.fence f))
      { st with blocks := .code { info := f.info, firstLine := st.cursor.line + 1 } :: st.blocks }
  | none => .nothing st

/-- Starts an HTML block, which only spaces may indent. -/
def marked (body : List Char) (spot : Spot) (st : State) : Found :=
  let line := st.cursor.view
  if line.dropWhile (· == ' ') != body then .nothing st
  else
    match Html.Block.start? spot.inParagraph body with
    | some b => .leaf (spot.enter (.html b (b.endsWith line))) st
    | none => .nothing st

/-- The block that the mark at the start of a line tells.  Tabs may make the indentation as wide as the line
is long, and then it is no heading, code or HTML. -/
def starter (body : List Char) (spot : Spot) (st : State) : Found :=
  let c := body.head?.getD '\n'
  let isLong := decide (st.cursor.indent < (String.ofList st.cursor.view).utf8ByteSize)
  if c = '-' then
    (((underlined spot st).orElse (ruled spot)).orElse (listed spot)).orElse (itemized spot)
  else if c = '=' then underlined spot st
  else if c = '*' then ((ruled spot st).orElse (listed spot)).orElse (itemized spot)
  else if c = '_' then ruled spot st
  else if c = '+' ∨ c.isDigit then (listed spot st).orElse (itemized spot)
  else if c = '>' then quoted spot st
  else if !isLong then .nothing st
  else if c = '#' then headed body spot st
  else if c = '\x60' ∨ c = '~' then fenced body spot st
  else if c = '<' then marked body spot st
  else .nothing st

/-- Starts indented code or a paragraph. -/
def plain (spot : Spot) (st : State) : Found :=
  if spot.inParagraph || st.cursor.isBlank then .nothing st
  else if st.cursor.indent > 3 then .leaf (spot.enter .indented) st
  else .leaf (spot.enter (.paragraph [st.cursor.textLine] spot.above.inEmptyItem)) st

/-- Starts all blocks at a place. -/
def start : (fuel : Nat) → Spot → State → Spot × State
  | 0, spot, st => (spot, st)
  | fuel + 1, spot, st =>
    let line := st.cursor.view
    if st.cursor.isDone || line.head? == some '\n' then (spot, st)
    else
      let byMark := if st.cursor.indent > 3 then .nothing st else starter (line.drop (indentLength line)) spot st
      match byMark.orElse (plain spot) with
      | .nothing st => (spot, st)
      | .leaf spot st => (spot, st)
      | .more spot st => start fuel spot st

/-! ### Open blocks -/

/-- Closes blocks.  The definitions of a paragraph are kept. -/
def close (bs : Stack) (st : State) : State :=
  { st with
    labels := st.labels ++ bs.flatMap fun b =>
      match b with
      | .paragraph lines _ => (Definition.split lines.reverse).1
      | _ => [] }

/-- Whether a line belongs to a list: its last item goes on, or another one may start. -/
def isInList (l : OpenList) (st : State) : Bool :=
  let indent := st.cursor.indent
  let mark? := if (decide (indent < l.width) || l.isEmpty) && decide (indent < 4) then itemMark? st.cursor.view else none
  match mark? with
  | some m => m.mark == l.mark && !isThematicBreak 0 (st.cursor.view.drop (m.width - 1))
  | none => decide (indent ≥ l.width) && !st.sawBlank

/-- The result of going on with a block. -/
inductive Reply where
  /-- The block has ended. -/
  | ends (st : State)
  /-- The line has been added to the block. -/
  | added (st : State)
  /-- What is left of the line belongs to blocks inside the block. -/
  | inside (st : State)

/-- Goes on with an item of a list. -/
def keepItem (l : OpenList) (st : State) : Reply :=
  let c := st.cursor
  let isVoid := l.isEmpty && st.sawBlank
  if c.isBlank then .inside { st with cursor := c.lineEnd }
  else if (isVoid || decide (c.indent < l.width)) && decide (c.indent < 4) && (itemMark? c.view).isSome then
    .ends { st with endsItem := true }
  else if !isVoid && decide (c.indent < l.width) && decide (c.indent < 4) then .ends st
  else
    let (passed, padding) := (indentPosition? l.width c.offset c.view).getD (0, 0)
    .inside { st with cursor := c.advanceTo passed padding }

/-- Goes on with HTML. -/
def keepHtml (b : Html.Block) (isOver : Bool) (st : State) : Reply :=
  let c := st.cursor
  if isOver then .ends st
  else
    match b with
    | .element => if c.isBlank then .ends st else .added st
    | .verbatim => if b.endsWith c.view then .ends { st with cursor := c.lineEnd } else .added st
    | .upTo _ => if b.endsWith c.view then .ends { st with cursor := c.advance c.view.length } else .added st

/-- Goes on with an open block, which is inside the blocks `above`.  A paragraph goes on only where no other
block starts. -/
def keep (above : Stack) (b : OpenBlock) (st : State) : Reply :=
  let c := st.cursor
  match b with
  | .quote =>
    match quoteMark? c with
    | some inner => .inside { st with cursor := inner }
    | none => .ends st
  | .list l =>
    if c.isBlank then .inside { st with sawBlank := st.sawBlank || l.isEmpty }
    else if isInList l st then .inside st
    else .ends st
  | .item =>
    match above.getLast? with
    | some (.list l) => keepItem l st
    | _ => .ends st
  | .fence f =>
    if f.isClosedBy c then .ends { st with cursor := c.lineEnd }
    else .added { st with blocks := Block.addCode (f.codeOf c) st.blocks }
  | .html b isOver => keepHtml b isOver st
  | .indented => if c.isBlank || decide (c.indent ≥ 4) then .added st else .ends st
  | .paragraph _ _ => .ends st
  | .line => .ends st

/-- The number of steps in which a line starts blocks at most. -/
def startFuel (st : State) : Nat := 2 * st.cursor.view.length + 3

/-- Starts the blocks of a line inside the blocks `above`, where the blocks `below` end.  An open paragraph
goes on with a line that starts none. -/
def replace (above below : Stack) (st : State) : Stack × State :=
  let (spot, st) := start st.startFuel { above, below } st
  if spot.inParagraph && !st.cursor.isBlank then
    (spot.above ++ spot.below.addText st.cursor.textLine, { st with cursor := st.cursor.lineEnd })
  else (spot.above, st.close spot.below)

/-- Adds a line to the open blocks `below`, which are inside the blocks `above`. -/
def addLine (above : Stack) : (below : Stack) → State → Stack × State
  | [], st => (above, st)
  | b :: below, st =>
    if st.cursor.isDone then (above ++ b :: below, st)
    else
      match keep above b st with
      | .added st => addLine (above ++ [b]) below st
      | .inside st =>
        if below.isEmpty then
          let (spot, st) := start st.startFuel { above := above ++ [b], below := [] } st
          (spot.above, st)
        else addLine (above ++ [b]) below st
      | .ends st => replace above (b :: below) st

/-- Reads all lines. -/
def readLines : (fuel : Nat) → Stack → State → State
  | 0, stack, st => st.close stack
  | fuel + 1, stack, st =>
    if st.cursor.isDone then st.close stack
    else
      let (stack, st) := if stack.isEmpty then replace [] [] st else addLine [] stack st
      readLines fuel stack { st with cursor := st.cursor.nextLine }

end State

/-- The blocks of a document in order, and the link labels that it defines. -/
def Document.parse (text : List Char) : List Block × List Label :=
  let start : State := { cursor := Cursor.start text }
  let st := State.readLines (start.cursor.ahead.length + 1) [] start
  (st.blocks.reverse, st.labels)

end SqlOutline.Markdown
