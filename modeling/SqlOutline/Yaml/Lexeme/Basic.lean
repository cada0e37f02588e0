import SqlOutline.Text.Space
import SqlOutline.Yaml.Scalar

/-!
# Lexemes of YAML

A document is cut into lexemes: indicators, names and scalars, each with the place where it starts.

* `Yaml.Lexeme` : a lexeme, with the text it stands for and the characters it was written with;
* `Yaml.Lexeme.scalar?` : what a scalar stands for;
* `Yaml.isBreak`, `Yaml.isBlank`, `Yaml.startsMarker` : line breaks, blanks and document markers.
-/

namespace SqlOutline.Yaml

/-- Whether a character is a blank inside a line. -/
def isBlank (c : Char) : Bool := c == ' ' || c == '\t'

/-- Whether a character breaks a line. -/
def isBreak (c : Char) : Bool := c == '\n' || c == '\r'

/-- Whether a line starts with a marker that ends or starts a document. -/
def startsMarker (cs : List Char) : Bool :=
  (cs.take 3 == "---".toList || cs.take 3 == "...".toList)
    && match cs.drop 3 with
      | [] => true
      | c :: _ => isBlank c || isBreak c

/-- The kinds of lexemes. -/
inductive LexemeKind where
  /-- Three dashes. -/
  | documentStart
  /-- Three points. -/
  | documentEnd
  /-- A dash before an item of a sequence. -/
  | item
  | comma
  | openMap
  | closeMap
  | openSeq
  | closeSeq
  | colon
  /-- A question mark before a key. -/
  | question
  /-- The key whose value is merged into the mapping. -/
  | merge
  /-- The mark before the name of an anchor. -/
  | anchor
  /-- The mark before a name that refers to an anchor. -/
  | reference
  | tag
  /-- The mark before the name of a directive. -/
  | directive
  /-- The header of a block of text. -/
  | block
  | comment
  /-- A scalar without quotes. -/
  | plain
  /-- A text that stands for itself: a block, or a scalar behind a tag of its own. -/
  | text
  /-- A text in quotes. -/
  | quoted
deriving DecidableEq, Repr

/-- A lexeme. -/
structure Lexeme where
  /-- The kind. -/
  kind : LexemeKind
  /-- The text it stands for. -/
  text : String := ""
  /-- The characters it was written with, and the blanks before it. -/
  raw : List Char := []
  /-- The line it starts in, counted from one. -/
  line : Nat
  /-- The column it starts at, counted from one. -/
  column : Nat

namespace Lexeme

/-- What a scalar stands for. -/
def scalar? (l : Lexeme) : Option Scalar :=
  match l.kind with
  | .plain => some (.ofPlain l.text)
  | .text => some (.text l.text)
  | .quoted => some (.text l.text)
  | _ => none

/-- Whether a lexeme is a text without quotes. -/
def isBareText (l : Lexeme) : Bool := l.kind != .quoted && l.scalar?.any Scalar.isText

/-- Whether a lexeme can stand where a scalar is expected. -/
def isScalar (l : Lexeme) : Bool :=
  l.scalar?.isSome || l.kind == .anchor || l.kind == .reference || l.kind == .block

end Lexeme

end SqlOutline.Yaml
