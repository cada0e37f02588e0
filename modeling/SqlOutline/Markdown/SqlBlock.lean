import SqlOutline.Markdown.Document
import SqlOutline.Markdown.Inline

/-!
# SQL in Markdown documents

* `SqlBlock` : a block of fenced SQL code, with the heading before it;
* `SqlBlock.ofMarkdown` : all of them in a document;
* `SqlBlock.first` : the first one.
-/

namespace SqlOutline

/-- A block of SQL code. -/
structure SqlBlock where
  /-- The text of the last heading before the block; empty when there is none. -/
  heading : String
  /-- The code, without line feeds at its end. -/
  sql : String
  /-- The number of the first line of code; zero when there is none. -/
  line : Nat
deriving DecidableEq, Repr

namespace SqlBlock

open Markdown

/-- Whether the first word after a fence says that the code is SQL. -/
def isSql (c : Code) : Bool :=
  match Text.words (String.ofList c.info) with
  | word :: _ => Text.foldsTo word "sql"
  | [] => false

/-- The block of fenced code under a heading. -/
def ofCode (heading : String) (c : Code) : SqlBlock where
  heading := heading
  sql := String.ofList (Text.dropEndWhile (· == '\n') (List.intercalate ['\n'] c.lines.reverse))
  line := if c.lines.isEmpty then 0 else c.firstLine

/-- The SQL code among blocks, each under the last heading before it. -/
def collect (labels : List Label) : (heading : String) → List Block → List SqlBlock
  | _, [] => []
  | _, .heading lines firstInItem :: rest =>
    collect labels (Text.trim (String.ofList (visibleText labels firstInItem lines))) rest
  | heading, .code c :: rest =>
    if isSql c then ofCode heading c :: collect labels heading rest else collect labels heading rest

/-- The SQL code of a document, in order. -/
def ofMarkdown (text : String) : List SqlBlock :=
  let (blocks, labels) := Document.parse text.toList
  collect labels "" blocks

/-- The first SQL code of a document. -/
def first (text : String) : Option SqlBlock := (ofMarkdown text).head?

/-- The wording for a document without SQL code. -/
def noneMessage : String := "no sql code block found"

end SqlBlock

end SqlOutline
