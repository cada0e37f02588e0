import SqlOutline.Yaml.Lexeme.Basic

/-!
# Blocks of text in YAML

The text of a block follows its header, line by line, as far as the lines are indented.  A plain scalar whose
next line starts with a dash goes on as a block, too.

* `Yaml.BlockText` : the state of reading a block;
* `Yaml.BlockText.ofHeader?` : the state behind a header;
* `Yaml.BlockText.clip` : what is kept of the line feeds at the end.
-/

namespace SqlOutline.Yaml

/-- The state of reading a block of text.  Columns are zero as long as they are not known. -/
structure BlockText where
  /-- Whether line breaks are kept as they are. -/
  literal : Bool := false
  /-- Whether all line feeds at the end are dropped. -/
  strip : Bool := false
  /-- Whether all line feeds at the end are kept. -/
  keep : Bool := false
  /-- Whether the header tells the indentation. -/
  explicit : Bool := false
  /-- The column at which the text of the first line starts. -/
  first : Nat := 0
  /-- The column at which the text of the line before starts. -/
  previous : Nat := 0
  /-- The column at which the text of this line starts. -/
  current : Nat := 0
  /-- The column at which the text of the last line with a text starts. -/
  latest : Nat := 0
  /-- The width of the last blank line before the first line. -/
  blankWidth : Nat := 0
  /-- Whether a line break was read and no text since. -/
  broken : Bool := false
deriving DecidableEq, Repr

/-- The number that a text of decimal digits with an optional sign writes. -/
def readSigned? : List Char → Option Int
  | '+' :: ds => (readDigits? 10 ds).map Int.ofNat
  | '-' :: ds => (readDigits? 10 ds).map fun n => -(Int.ofNat n)
  | ds => (readDigits? 10 ds).map Int.ofNat

namespace BlockText

/-- The text without a character at its start. -/
def dropFirst (c : Char) (cs : List Char) : List Char := if cs.head? == some c then cs.drop 1 else cs

/-- The text without a character at its end. -/
def dropLast (c : Char) (cs : List Char) : List Char := if cs.getLast? == some c then cs.dropLast else cs

/-- The indentation that the option of a header asks for; zero if it asks for none. -/
def width? (option : List Char) : Option Int :=
  match dropLast '+' (dropLast '-' (dropFirst '+' (dropFirst '-' option))) with
  | [] => some 0
  | digits =>
    if digits == ['0'] then none
    else (readSigned? digits).filter fun n => decide (minInt ≤ n) && decide (n ≤ 9)

/-- The state behind a header with the given option.  `delimiter` is the column of the key or item that the
block belongs to. -/
def ofHeader? (literal : Bool) (delimiter : Nat) (option : List Char) : Option BlockText :=
  (width? option).map fun (width : Int) =>
    { literal
      strip := option.head? == some '-' || option.getLast? == some '-'
      keep := option.head? == some '+' || option.getLast? == some '+'
      explicit := width != 0
      first := if width > 0 then delimiter + width.toNat else 0 }

/-- The state of a plain scalar that goes on as a block. -/
def ofPlain (column : Nat) : BlockText := { strip := true, first := column, current := column }

/-- The state once text was found at a column. -/
def enter (b : BlockText) (column : Nat) : BlockText :=
  { b with
    first := if b.first == 0 then column else b.first
    current := if b.current == 0 then column else b.current }

/-- Whether the indentation is less than the header asks for. -/
def isShallow (b : BlockText) : Bool := b.explicit && b.first > b.current

/-- The state behind a line break at a column. -/
def breakLine (b : BlockText) (column : Nat) : BlockText :=
  { b with
    blankWidth := if b.first == 0 then column - 1 else b.blankWidth
    previous := b.current
    latest := if b.current == 0 then b.latest else b.current
    broken := true
    current := 0 }

/-- Whether a column belongs to the indentation. -/
def isIndent (b : BlockText) (column : Nat) : Bool :=
  if b.first == 0 then column == 1 else b.first > column

/-- The text, last character first, before a character at a column is added.  A single line break between
lines of the same indentation is a space, and of several breaks one is dropped. -/
def fold (b : BlockText) (column : Nat) (text : List Char) : List Char :=
  if b.literal || !b.broken then text
  else if b.current == b.previous then
    match text with
    | '\n' :: rest => ' ' :: rest
    | _ => text
  else if b.previous == 0 && b.latest == column then
    match text with
    | '\n' :: '\n' :: rest => '\n' :: rest
    | _ => text
  else text

/-- What is kept of a text, last character first. -/
def clip (b : BlockText) (text : List Char) : List Char :=
  let kept :=
    if b.strip then (text.dropWhile (· == '\n')).dropWhile (· == ' ')
    else if b.keep then text
    else if text.head? == some '\n' then '\n' :: text.dropWhile (· == '\n')
    else text
  let kept := if kept == ['\n'] then [] else kept
  if b.keep && kept.isEmpty then ['\n'] else kept

end BlockText

end SqlOutline.Yaml
