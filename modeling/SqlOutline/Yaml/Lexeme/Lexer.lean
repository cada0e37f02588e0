import SqlOutline.Yaml.Lexeme.BlockText
import SqlOutline.Yaml.Lexeme.Quoted

/-!
# The lexemes of a text

A text is read character by character.  The characters of a plain scalar are gathered until something ends it:
an indicator, a comment, or a line that is not indented behind the last key or item.

* `Yaml.Lexer` : the state between two characters;
* `Yaml.Lexer.step` : reads on from a character;
* `Yaml.Lexeme.scan` : the lexemes of a text.
-/

namespace SqlOutline.Yaml

/-- How the first character of a line stands to the last key or item. -/
inductive Shift where
  /-- Nothing is known yet. -/
  | unknown
  /-- The line is indented behind it. -/
  | deeper
  /-- The line is not indented behind it. -/
  | out
  /-- The character is not the first one of its line. -/
  | within
deriving DecidableEq, Repr

/-- The state between two characters. -/
structure Lexer where
  /-- The characters that follow. -/
  rest : List Char
  /-- The character before. -/
  before : Char := '\x00'
  /-- The line, counted from one. -/
  line : Nat := 1
  /-- The column, counted from one. -/
  column : Nat := 1
  /-- The column of the last key or item; zero before the first one. -/
  delimiter : Nat := 0
  /-- The width of the indentation. -/
  indent : Nat := 0
  /-- Whether nothing but blanks was read in this line. -/
  lineStart : Bool := true
  /-- Whether the name of an anchor is read. -/
  inAnchor : Bool := false
  /-- Whether the name of a reference is read. -/
  inReference : Bool := false
  /-- Whether a directive is read. -/
  inDirective : Bool := false
  /-- The number of open square brackets. -/
  sequences : Int := 0
  /-- The number of open braces. -/
  mappings : Int := 0
  /-- How the line stands to the last key or item. -/
  shift : Shift := .unknown
  /-- The line and column at which a scalar of several lines starts. -/
  saved : Option (Nat × Nat) := none
  /-- The gathered characters up to the last one that counts, last one first. -/
  solid : List Char := []
  /-- The gathered characters behind them, last one first. -/
  loose : List Char := []
  /-- The line feeds of an empty block, which count as gathered until the next character is. -/
  ghost : List Char := []
  /-- All characters since the last lexeme, last one first. -/
  raw : List Char := []
  /-- The block that is read. -/
  block : Option BlockText := none
  /-- The lexemes, last one first. -/
  lexemes : List Lexeme := []

namespace Lexer

/-! ### Moving -/

/-- Moves over characters without counting columns. -/
def pass (l : Lexer) (n : Nat) : Lexer :=
  { l with rest := l.rest.drop n, before := ((l.rest.take n).getLast?).getD l.before }

/-- Moves over characters in a line. -/
def advance (l : Lexer) (n : Nat) : Lexer := { l.pass n with column := l.column + n }

/-- Moves over a line break. -/
def nextLine (l : Lexer) : Lexer :=
  { l.pass 1 with
    column := 1
    line := l.line + 1
    indent := 0
    lineStart := true
    inAnchor := false
    inReference := false
    inDirective := false }

/-- Whether at most one character is left. -/
def atEnd (l : Lexer) : Bool :=
  match l.rest with
  | _ :: _ :: _ => false
  | _ => true

/-- The character behind the next one. -/
def second? (l : Lexer) : Option Char := (l.rest.drop 1).head?

/-- Whether a bracket is open. -/
def inFlow (l : Lexer) : Bool := l.sequences > 0 || l.mappings > 0

/-! ### Gathered characters -/

/-- The gathered text, last character first. -/
def gathered (l : Lexer) : List Char :=
  let text := if l.solid.isEmpty then l.ghost else l.solid
  match l.block with
  | some b => b.clip text
  | none => text

/-- Whether a text is gathered. -/
def hasText (l : Lexer) : Bool := !l.gathered.isEmpty

/-- Adds a character; blanks at the start do not count, and blanks at the end only once something follows. -/
def gather (l : Lexer) (c : Char) : Lexer :=
  if isBlank c then
    if l.solid.isEmpty && l.loose.isEmpty then l else { l with loose := c :: l.loose }
  else { l with solid := c :: (l.loose ++ l.solid), loose := [], ghost := [] }

/-- Adds a character of a block, where only spaces are blanks. -/
def gatherTab (l : Lexer) (c : Char) : Lexer :=
  if c == ' ' then l.gather c else { l with solid := c :: (l.loose ++ l.solid), loose := [], ghost := [] }

/-- Notes a character as read. -/
def note (l : Lexer) (c : Char) : Lexer := { l with raw := c :: l.raw }

/-- Forgets the characters since the last lexeme. -/
def clearText (l : Lexer) : Lexer := { l with solid := [], loose := [], ghost := [], raw := [] }

/-- Forgets the characters since the last lexeme, and the block. -/
def clear (l : Lexer) : Lexer := { l.clearText with block := none }

/-- Adds a lexeme. -/
def push (l : Lexer) (x : Lexeme) : Lexer := { l with lexemes := x :: l.lexemes }

/-- Adds a lexeme that starts here. -/
def pushHere (l : Lexer) (kind : LexemeKind) (text : String) : Lexer :=
  l.push { kind, text, raw := l.raw.reverse, line := l.line, column := l.column }

/-- The tags that have a meaning of their own. -/
def knownTags : List String :=
  ["!!int", "!!float", "!!null", "!!seq", "!!map", "!!str", "!!binary", "!!omap", "!!set", "!!timestamp",
    "!!bool", "!!merge"]

/-- Whether a lexeme is a tag without a known meaning. -/
def isOwnTag (x : Lexeme) : Bool := x.kind == .tag && !knownTags.contains x.text

/-- The place where the gathered text starts. -/
def textStart (l : Lexer) : Nat × Nat :=
  match l.saved with
  | some place => place
  | none =>
    if l.block.isSome then (l.line, if (l.loose ++ l.solid).isSuffixOf l.raw then 1 else 0)
    else (l.line, l.column - (l.loose.length + l.solid.length))

/-- Takes the gathered text out as a lexeme. -/
def takeText (l : Lexer) : Option Lexeme × Lexer :=
  let (line, column) := l.textStart
  let text := l.gathered.reverse
  let l := { l with saved := none }
  if text.isEmpty then
    (none, { l with solid := [], loose := [], ghost := if l.solid.isEmpty then l.ghost else l.solid })
  else
    let kind := if l.block.isSome || l.lexemes.head?.any isOwnTag then .text else .plain
    (some { kind, text := String.ofList text, raw := l.raw.reverse, line, column }, l.clearText)

/-- Turns the gathered text into a lexeme. -/
def flush (l : Lexer) : Lexer :=
  match l.takeText with
  | (some x, l) => l.push x
  | (none, l) => l

/-- Takes a character into the gathered text. -/
def take (l : Lexer) (c : Char) : Lexer := ((l.gather c).note c).advance 1

/-- Ends the gathered text with an indicator of one character. -/
def indicator (l : Lexer) (kind : LexemeKind) (c : Char) : Lexer :=
  (((l.flush.note c).pushHere kind "").advance 1).clear

/-- Whether the characters since the last lexeme start with a tab, at most one space before it. -/
def startsWithTab (l : Lexer) : Bool :=
  match l.raw.reverse with
  | '\t' :: _ => true
  | ' ' :: '\t' :: _ => true
  | _ => false

/-! ### Indentation -/

/-- Notes how a character stands to the last key or item. -/
def track (l : Lexer) (c : Char) : Lexer :=
  if !l.lineStart then { l with shift := .within }
  else if isBreak c || c == '\t' then l
  else if c == ' ' then { l with indent := l.indent + 1 }
  else
    { l with
      shift := if l.delimiter == 0 then l.shift else if l.delimiter < l.column then .deeper else .out
      lineStart := false }

/-! ### Blocks -/

/-- Adds a space of the indentation of a block, if it belongs to the text. -/
def indentBlock (l : Lexer) (b : BlockText) : Lexer :=
  if b.first == 0 || l.column < b.first then l
  else
    { l with
      block := some (if b.literal then b else { b with broken := false })
      solid := ' ' :: (l.loose ++ l.solid)
      loose := [] }

/-- Ends a block with a text that may be empty. -/
def endBlock (l : Lexer) : Lexer :=
  (l.pushHere .text (String.ofList l.gathered.reverse)).clear

/-- Reads a character of a block. -/
def stepBlock (l : Lexer) (b : BlockText) (c : Char) : Option Lexer :=
  let l := l.note c
  let (l, c) := if c == '\r' && l.second? == some '\n' then ((l.note '\n').pass 1, '\n') else (l, c)
  if l.atEnd then
    let l := if l.lineStart && c == ' ' then l.indentBlock b else l.gather c
    if (b.enter l.column).isShallow then none else some (l.endBlock.advance 1)
  else if isBreak c then
    let l := { (l.gather c).nextLine with block := some (b.breakLine l.column) }
    some (if startsMarker l.rest then l.endBlock else l)
  else if l.lineStart && c == ' ' then some ((l.indentBlock b).advance 1)
  else if c == '\t' && b.isIndent l.column then
    if l.lineStart then none else enter l
  else if c == '\t' then some ((l.gatherTab c).advance 1)
  else enter l
where
  enter (l : Lexer) : Option Lexer :=
    if b.first == 0 && b.blankWidth > l.column then none
    else
      let b := b.enter l.column
      if b.isShallow then none
      else
        let l := { l with
          delimiter := if b.first > 1 then b.first - 1 else l.delimiter
          block := some (if b.literal then b else { b with broken := false })
          solid := b.fold l.column l.solid }
        some ((l.gatherTab c).advance 1)

/-- Reads the header of a block, and the line break behind it. -/
def blockHeader (l : Lexer) (c : Char) : Option Lexer :=
  let line := (l.rest.drop 1).takeWhile (!isBreak ·)
  let ended := (l.rest.drop 1).length > line.length
  let value := Text.dropEndWhile isBlank (if ended then line else line.dropLast)
  let option := value.takeWhile (· != '#')
  let option := if option.isEmpty then value else Text.dropEndWhile isBlank option
  let delimiter := if l.column == 1 then 1 else l.delimiter
  (BlockText.ofHeader? (c == '|') delimiter option).map fun b =>
    let l := l.pushHere .block (String.ofList (c :: option))
    let l := { l with delimiter, shift := .within }.clearText.pass (line.length + 1)
    let l := if l.rest.head? == some '\r' && l.second? == some '\n' then l.pass 1 else l
    { l.nextLine with block := some b }

/-! ### Indicators -/

/-- Reads a document marker of three characters. -/
def marker (l : Lexer) (kind : LexemeKind) : Lexer := ((l.flush.pushHere kind "").advance 3).clear

/-- Whether exactly three of a character start the line. -/
def startsThree (l : Lexer) (c : Char) : Bool :=
  l.indent == 0 && l.column == 1 && (l.rest.takeWhile (· == c)).length == 3

/-- Whether a colon that ends a key comes next, behind spaces. -/
def keyEnds : List Char → Bool
  | [] => false
  | c :: cs =>
    if c == ' ' then keyEnds cs
    else if c == ':' then
      match cs with
      | d :: _ => d == ' ' || isBreak d || keyEnds cs
      | [] => false
    else false

/-- Reads a dash. -/
def dash (l : Lexer) : Option Lexer :=
  if l.startsThree '-' && startsMarker l.rest then
    some { l.marker .documentStart with delimiter := 0, indent := 0 }
  else if l.hasText then
    if l.shift == .deeper then
      some (({ l with block := some (.ofPlain l.column) }.gather '-').note '-' |>.advance 1)
    else some (l.take '-')
  else if !l.second?.all (fun c => isBlank c || isBreak c || c == '\x00') then some (l.take '-')
  else if l.startsWithTab then none
  else some { l.indicator .item '-' with delimiter := l.column }

/-- Reads a colon. -/
def colon (l : Lexer) : Option Lexer :=
  if l.inDirective || l.inAnchor || l.inReference then some (l.take ':')
  else if l.mappings ≤ 0 && !l.second?.all (fun c => isBlank c || isBreak c) then some (l.take ':')
  else if l.mappings > 0 && (l.second? == some '/' || l.lexemes.head?.any (·.kind == .colon)) then
    some (l.take ':')
  else if l.startsWithTab then none
  else
    let l :=
      match l.takeText with
      | (some x, l) => { l.push x with delimiter := x.column }
      | (none, l) =>
        match l.lexemes with
        | x :: _ => if x.kind == LexemeKind.quoted then { l with delimiter := x.column } else l
        | [] => l
    some ((l.pushHere .colon "").advance 1).clear

/-- Reads a tag. -/
def tag (l : Lexer) : Option Lexer :=
  let after := l.rest.drop 1
  let name := after.takeWhile fun c =>
    !(c == ' ' || isBreak c || c == '\x7b' || c == '\x7d' || (c == ',' && l.inFlow))
  let text := String.ofList ('!' :: name)
  match after.drop name.length with
  | [] => some (l.advance l.rest.length).clear
  | c :: _ =>
    if c == '\x7b' || c == '\x7d' then none
    else if c == ' ' then some (((l.pushHere .tag text).pass 1).advance (name.length + 1)).clear
    else some ((l.pushHere .tag text).pass 1 |>.advance name.length).clear

/-- Reads a comment, and the line break behind it. -/
def comment (l : Lexer) : Lexer :=
  let l := l.flush.pushHere .comment ""
  (l.pass (l.rest.takeWhile (!isBreak ·)).length).nextLine.clear

/-- Reads a quoted scalar. -/
def quote (l : Lexer) (c : Char) : Option Lexer :=
  let start : QuotedEnd := { raw := c :: l.raw, line := l.line, column := l.column + 1 }
  let after := l.rest.drop 1
  let read := if c == '"' then doubleQuoted? l.delimiter (after.length + 1) start after
    else singleQuoted? l.delimiter start after
  read.map fun q =>
    let x : Lexeme :=
      { kind := .quoted, text := String.ofList q.text.reverse, raw := q.raw.reverse, line := l.line,
        column := l.column }
    let crossed := q.line != l.line
    let l := l.pass (l.rest.length - q.rest.length)
    { (l.push x).clear with
      line := q.line
      column := q.column
      indent := if crossed then 0 else l.indent
      lineStart := l.lineStart || crossed
      inAnchor := l.inAnchor && !crossed
      inReference := l.inReference && !crossed
      inDirective := l.inDirective && !crossed }

/-! ### Blanks -/

/-- Reads a line break. -/
def newline (l : Lexer) (c : Char) : Lexer :=
  let gathering := !l.solid.isEmpty || !l.loose.isEmpty
  let l :=
    if gathering && l.saved.isNone then { l with saved := some (l.line, l.column - l.gathered.length) } else l
  let l := if l.raw.head?.any isBlank then { l with raw := l.raw.dropWhile isBlank, loose := [] } else l
  let (l, c) := if c == '\r' && l.second? == some '\n' then ((l.note '\r').pass 1, '\n') else (l, c)
  let l := if l.atEnd || l.inAnchor || l.inReference || l.inDirective then l.flush else l
  let l :=
    if l.hasText && l.lineStart then
      { l with loose := '\n' :: if l.loose.head? == some ' ' then l.loose.drop 1 else l.loose }
    else l.gather ' '
  (l.note c).nextLine

/-- Reads a space. -/
def space (l : Lexer) : Lexer :=
  if l.lineStart then (l.advance 1).note ' '
  else if l.inDirective then (l.flush.advance 1).note ' '
  else if l.inAnchor || l.inReference then { l.flush with inAnchor := false, inReference := false }.take ' '
  else l.take ' '

/-- Reads a tab.  Behind the last key or item it is passed over. -/
def tab (l : Lexer) : Option Lexer :=
  if (l.hasText && l.delimiter == 0) || l.delimiter < l.column then
    some ({ l with indent := l.indent + 1 }.note '\t' |>.pass 1)
  else if !l.inFlow && l.lineStart then none
  else some (l.take '\t')

/-! ### Reading on -/

/-- Reads on from a character outside blocks. -/
def dispatch (l : Lexer) (c : Char) : Option Lexer :=
  match c with
  | '\x7b' =>
    if l.hasText && !l.inFlow then l.take c
    else some { l.indicator .openMap c with mappings := l.mappings + 1 }
  | '\x7d' =>
    if l.mappings ≤ 0 then l.take c
    else some { l.indicator .closeMap c with mappings := l.mappings - 1 }
  | '[' =>
    if l.hasText && !l.inFlow then l.take c
    else some { l.indicator .openSeq c with sequences := l.sequences + 1 }
  | ']' =>
    if l.hasText && l.sequences ≤ 0 then l.take c
    else some { l.indicator .closeSeq c with sequences := l.sequences - 1 }
  | ',' => if l.inFlow then l.indicator .comma c else l.take c
  | '.' => if l.startsThree '.' then l.marker .documentEnd else l.take c
  | '<' =>
    if (l.rest.takeWhile (· == '<')).length == 2 && keyEnds (l.rest.drop 2) then
      some { ((l.pushHere .merge "<<").advance 2).clear with delimiter := l.column }
    else l.take c
  | '-' => l.dash
  | ':' => l.colon
  | '|' => if l.hasText then l.take c else l.blockHeader c
  | '>' => if l.hasText then l.take c else l.blockHeader c
  | '!' => if l.hasText || l.inDirective then l.take c else l.tag
  | '%' =>
    if l.hasText || l.indent != 0 then l.take c
    else some { l.indicator .directive c with inDirective := true }
  | '?' =>
    if l.hasText || !l.second?.any isBlank then l.take c
    else some { l.indicator .question c with delimiter := l.column }
  | '&' => if l.hasText then l.take c else some { l.indicator .anchor c with inAnchor := true }
  | '*' => if l.hasText then l.take c else some { l.indicator .reference c with inReference := true }
  | '#' => if l.hasText && !(isBlank l.before || isBreak l.before) then l.take c else l.comment
  | '\'' => if l.hasText then l.take c else l.quote c
  | '"' => if l.hasText then l.take c else l.quote c
  | '\n' => l.newline c
  | '\r' => l.newline c
  | ' ' => l.space
  | '@' => if l.hasText then l.take c else none
  | '\x60' => if l.hasText then l.take c else none
  | '\t' => l.tab
  | _ => l.take c

/-- Reads on from a character.  A line that is not indented behind the last key or item ends what was read
before. -/
def step (l : Lexer) (c : Char) : Option Lexer :=
  let l := l.track c
  let out := l.shift == .out
  let l := if out then l.flush else l
  match l.block with
  | none => l.dispatch c
  | some b =>
    if !out then l.stepBlock b c
    else
      match l.lexemes with
      | [] => { l with block := none }.dispatch c
      | x :: _ =>
        if x.column == 1 then none
        else
          let l := if x.isBareText then l else l.push { kind := .text, line := l.line, column := l.column }
          { l with block := none }.dispatch c

/-- Reads up to the end. -/
def run : (fuel : Nat) → Lexer → Option Lexer
  | 0, l => some l
  | fuel + 1, l =>
    match l.rest with
    | [] => some l
    | c :: _ => (l.step c).bind (run fuel)

end Lexer

/-- The lexemes of a text, without comments. -/
def Lexeme.scan (s : String) : Option (List Lexeme) :=
  (Lexer.run (s.length + 1) { rest := s.toList }).map fun l =>
    l.flush.lexemes.reverse.filter (·.kind != .comment)

end SqlOutline.Yaml
