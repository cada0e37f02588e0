import SqlOutline.Markdown.Autolink
import SqlOutline.Markdown.Delimiter
import SqlOutline.Markdown.Html
import SqlOutline.Markdown.Reference

/-!
# The visible text of a heading

The text of a heading is what is left of its source when markup is taken away: the marks of emphasis, code
and links disappear and their text stays, while HTML and links without markup disappear altogether.
Backslashes and entities stay as they are written, and line breaks vanish.

* `Inline.Piece` : what has been read so far: spans, and brackets that may still open a link;
* `Inline.State` : the pieces with the text at hand;
* `Inline.step` : reads on at one place of the source;
* `visibleText` : the text of a heading.
-/

namespace SqlOutline.Markdown.Inline

/-- A piece of a heading. -/
inductive Piece where
  /-- A span of text or a run of marks. -/
  | span (s : Span)
  /-- An opening bracket, with the source after it. -/
  | bracket (image : Bool) (after : List Char)
  /-- The text of a link or image, and whether there is a link in it. -/
  | linked (text : List Char) (hasLink : Bool)

/-- The span of a piece; a bracket that opens nothing is text. -/
def Piece.toSpan : Piece → Span
  | span s => s
  | bracket image _ => .text (if image then ['!', '['] else ['['])
  | linked text _ => .text text

/-- The text of pieces that come last first. -/
def visible (pieces : List Piece) : List Char := Span.visible (pieces.reverse.map Piece.toSpan)

/-- What has been read. -/
structure State where
  /-- The pieces, the last one first. -/
  pieces : List Piece := []
  /-- The text at hand, the last character first. -/
  text : List Char := []
  /-- The last character. -/
  before : Char := '\n'
  /-- Whether nothing of the line has been read since a piece was finished. -/
  fresh : Bool := true
  /-- Whether a backslash stands before the next character. -/
  escaped : Bool := false
  /-- The characters before the lines of the source, the last line first. -/
  edges : List Char := []

namespace State

/-- Finishes the text at hand. -/
def flush (st : State) : State :=
  if st.text = [] then st
  else { st with pieces := .span (.text st.text.reverse) :: st.pieces, text := [] }

/-- Takes a character as text. -/
def push (st : State) (c : Char) : State :=
  { st with text := c :: st.text, before := c, fresh := false, escaped := c == '\\' && !st.escaped }

/-- Adds a piece that ends with the given character. -/
def add (st : State) (p : Piece) (last : Char) : State :=
  { st with pieces := p :: st.pieces, before := last, fresh := true }

/-- Moves to the start of a line. -/
def toLine (st : State) (rest : List Char) : State :=
  { st with before := st.edges.getD (rest.count '\n') '\n', fresh := true }

/-- Whether a bracket is still open. -/
def inBrackets (st : State) : Bool :=
  st.pieces.any fun p =>
    match p with
    | .bracket _ _ => true
    | _ => false

end State

/-- The result of reading a piece: the state after it and the source that is left. -/
abbrev Outcome := Option (State × List Char)

/-! ### Pieces -/

/-- The text of a code span and the source after it.  A run of `n` backticks closes it. -/
def codeEnd? (n : Nat) : (fuel : Nat) → (done : List Char) → List Char → Option (List Char × List Char)
  | 0, _, _ => none
  | _, _, [] => none
  | fuel + 1, done, c :: cs =>
    if c = '\x60' then
      let run := (c :: cs).takeWhile (· == '\x60')
      let rest := (c :: cs).drop run.length
      if run.length = n then some (done.reverse, rest) else codeEnd? n fuel (run ++ done) rest
    else codeEnd? n fuel (c :: done) cs

/-- The text of a code span without one blank at either end, if both ends have one and there is more. -/
def codeText (cs : List Char) : List Char :=
  let isEdge := fun (c : Char) => c == ' ' || c == '\n'
  if !isBlank cs && cs.head?.any isEdge && cs.getLast?.any isEdge then (cs.drop 1).dropLast else cs

/-- Reads a code span; backticks that nothing closes are text. -/
def code (st : State) (cs : List Char) : Outcome :=
  let run := cs.takeWhile (· == '\x60')
  let rest := cs.drop run.length
  match codeEnd? run.length rest.length [] rest with
  | some (inside, rest) => some (st.add (.span (.text (codeText inside))) '\x60', rest)
  | none => some (st.add (.span (.text run)) '\x60', rest)

/-- Reads a run of marks. -/
def run (st : State) (cs : List Char) : Outcome :=
  match cs with
  | mark :: _ =>
    let length := (cs.takeWhile (· == mark)).length
    let rest := cs.drop length
    let r := Run.scan mark length st.before (rest.head?.getD ' ')
    if mark == '~' && (decide (length > 2) || st.before == '~') then none
    else some (st.add (.span (.run r)) mark, rest)
  | [] => none

/-- Reads an address in angle brackets or a piece of HTML. -/
def angle (st : State) (cs : List Char) : Outcome :=
  ((Autolink.angled? (cs.drop 1)).or (Html.inline? (cs.drop 1))).map fun rest =>
    (st.add (.span (.text [])) '>', rest)

/-- Reads a bare address; a mark before it is text.  Inside brackets there are none. -/
def bareAddress (st : State) (cs : List Char) : Outcome :=
  if st.inBrackets then none
  else
    let (lead, start) :=
      match cs with
      | c :: rest => if [' ', '*', '_', '~', '('].contains c then ([c], rest) else ([], cs)
      | [] => ([], [])
    (Autolink.plain? (start.takeWhile (· != '\n'))).map fun address =>
      (st.add (.span (.text lead)) (address.getLast?.getD ' '), start.drop address.length)

/-- Reads the box of a task, which must be the first thing in its list item.  White space after it goes with it,
up to the end of the line. -/
def taskBox (st : State) (cs : List Char) : Outcome :=
  match st.pieces, cs with
  | [], '[' :: c :: ']' :: rest =>
    if (Html.isWhite c && c != '\n') || c == 'x' || c == 'X' then
      let gap := rest.takeWhile fun d => Html.isWhite d && d != '\n'
      let left := rest.drop gap.length
      match left with
      | '\n' :: below => some ((st.add (.span (.text [])) ']').toLine below, below)
      | _ => some (st.add (.span (.text [])) (gap.getLast?.getD ']'), left)
    else none
  | _, _ => none

/-- The pieces after the last open bracket, that bracket, and the pieces before it; all come last first. -/
def splitBracket : List Piece → Option (List Piece × (Bool × List Char) × List Piece)
  | [] => none
  | .bracket image after :: rest => some ([], (image, after), rest)
  | p :: rest => (splitBracket rest).map fun (inner, b, outer) => (p :: inner, b, outer)

/-- Whether pieces have a link in them. -/
def hasLink (pieces : List Piece) : Bool :=
  pieces.any fun p =>
    match p with
    | .linked _ b => b
    | _ => false

/-- Whether a text is a label that has been defined. -/
def isDefined (labels : List Label) (text : List Char) : Bool :=
  decide ((String.ofList text).utf8ByteSize ≤ Label.limit) && labels.contains (.ofChars text)

/-- What follows the target of a link whose text has just been closed: a target in parentheses, a label in
brackets, or nothing if the text itself is a label. -/
def linkEnd? (labels : List Label) (text rest : List Char) : Option (List Char) :=
  let shortcut := if isDefined labels text then some rest else none
  match rest with
  | '(' :: start => (Link.target? start).or shortcut
  | '[' :: start =>
    match Link.label? start with
    | some (label, after) => if isDefined labels (if isBlank label then text else label) then some after else none
    | none => shortcut
  | _ => shortcut

/-- The number of bytes from the first open bracket to the last one, both included. -/
def bracketSpan (pieces : List Piece) : Nat :=
  let opened := pieces.filterMap fun p =>
    match p with
    | .bracket image after => some (image, after)
    | _ => none
  match opened.head?, opened.getLast? with
  | some (_, last), some (image, first) =>
    (String.ofList (first.take (first.length - last.length))).utf8ByteSize + if image then 2 else 1
  | _, _ => 0

/-- Closes the last open bracket.  A bracket that makes no link becomes text, and so does the closing one. -/
def closeBracket (labels : List Label) (st : State) (cs : List Char) : State × Option (List Char) :=
  match splitBracket st.pieces with
  | none => (st, none)
  | some (inner, (image, after), outer) =>
    let asText : State := { st with
      pieces := inner ++ .span (Piece.toSpan (.bracket image after)) :: outer }
    let text := after.take (after.length - cs.length)
    if bracketSpan outer ≥ Label.limit || (!image && hasLink inner) then (asText, none)
    else
      match linkEnd? labels text (cs.drop 1) with
      | none => (asText, none)
      | some rest =>
        let piece := Piece.linked (visible inner) (!image || hasLink inner)
        (({ st with pieces := outer } : State).add piece ']', some rest)

/-! ### Reading -/

/-- The end of a line at this place: whether a backslash makes it, and the source after it.  Two spaces or a
backslash before the line feed belong to it. -/
def lineEnd? (st : State) (cs : List Char) : Option (Bool × List Char) :=
  let lone := st.fresh || st.before != '\\'
  match cs with
  | '\n' :: rest => some (false, rest)
  | ' ' :: ' ' :: '\n' :: rest => some (false, rest)
  | ' ' :: ' ' :: '\r' :: '\n' :: rest => some (false, rest)
  | '\\' :: '\n' :: rest => if lone then some (true, rest) else none
  | '\\' :: '\r' :: '\n' :: rest => if lone then some (true, rest) else none
  | _ => none

/-- Ends a line.  White space at the end of the text at hand vanishes, unless a backslash ends the line. -/
def State.endLine (st : State) (backslash : Bool) (rest : List Char) : State :=
  let st := { st with text := if backslash then st.text else st.text.dropWhile isSpace }
  st.flush.toLine rest

/-- Reads on at one place.  White space and marks may start a piece, and so may the first character after a
piece; everything else is text. -/
def step (labels : List Label) (task : Bool) (st : State) (c : Char) (cs : List Char) :
    State × List Char :=
  let space := isSpace c && c != '\r'
  let punctuation := Text.isAsciiPunctuation c
  let key := if space || (st.fresh && !punctuation) then ' ' else c
  if ((punctuation && !st.escaped) || space || st.fresh)
      && ['\x60', '!', '[', ']', '<', '*', '_', '~', ' ', '('].contains key then
    let st := st.flush
    let source := c :: cs
    let plain := fun (st : State) => (({ st with escaped := false } : State).push c, cs)
    let read : Outcome → State × List Char := fun r => r.getD (plain st)
    match key with
    | '\x60' => read (code st source)
    | '!' =>
      match cs with
      | '[' :: after => (st.add (.bracket true after) '[', after)
      | _ => plain st
    | '[' => ((if task then taskBox st source else none)).getD (st.add (.bracket false cs) '[', cs)
    | ']' =>
      match closeBracket labels st source with
      | (st, some rest) => (st, rest)
      | (st, none) => plain st
    | '<' => read (angle st source)
    | '~' => read ((run st source).or (bareAddress st source))
    | ' ' => read (bareAddress st source)
    | '(' => read (bareAddress st source)
    | _ => read (run st source)
  else (st.push c, cs)

/-- Reads a source to its end. -/
def readAll (labels : List Label) (task : Bool) : (fuel : Nat) → State → List Char → State
  | 0, st, _ => st.flush
  | _, st, [] => ({ st with text := st.text.dropWhile isSpace } : State).flush
  | fuel + 1, st, c :: cs =>
    match lineEnd? st (c :: cs) with
    | some (backslash, rest) => readAll labels task fuel (st.endLine backslash rest) rest
    | none =>
      let (st, rest) := step labels task st c cs
      readAll labels task fuel st rest

end Inline

/-- The text of a heading with the given lines.  `labels` are those that the document defines, and with
`task` a task box at the start is left out. -/
def visibleText (labels : List Label) (task : Bool) (lines : List TextLine) : List Char :=
  let source := lines.flatMap (·.chars)
  let start : Inline.State := { edges := (lines.map (·.before)).reverse }
  Inline.visible (Inline.readAll labels task (source.length + 1) start source).pieces

end SqlOutline.Markdown
