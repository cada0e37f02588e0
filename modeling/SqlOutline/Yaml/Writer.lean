import SqlOutline.Text.Quoted
import SqlOutline.Yaml.Scalar
import SqlOutline.Outline.Node

/-!
# Writing YAML

A document is a list of lines.

* `Yaml.needsQuotes`, `Yaml.scalar` : a text is quoted where it could be taken for something else, written
  as a block when it has several lines, and as it is otherwise;
* `Yaml.item` : an item of a sequence;
* `Yaml.ofNode`, `Yaml.ofTexts` : the lines of a node and of a list of texts;
* `Yaml.render` : the text of the lines.
-/

namespace SqlOutline.Yaml

/-- The lines of a text. -/
def splitLines (s : String) : List String := (s.toList.splitOn '\n').map String.ofList

/-- Whether a colon or dash stands before a space, or a comment or escape mark stands anywhere. -/
def hasIndicator : List Char → Bool
  | [] => false
  | [c] => c == '#' || c == '\\'
  | c :: d :: cs => c == '#' || c == '\\' || ((c == ':' || c == '-') && d == ' ') || hasIndicator (d :: cs)

/-- Whether a text cannot be written plainly. -/
def needsQuotes (s : String) : Bool :=
  let cs := s.toList
  s == "" || isNullWord s || (readBool? s).isSome || looseBools.contains s || isNumeral s || s == "-"
    || cs.head?.any ("*&[\x7b\x7d],!|>%'\"@ \x60".toList.contains ·)
    || cs.getLast?.any (fun c => c == ':' || c == ' ')
    || isTimestamp s || hasIndicator cs

/-- The number of line feeds at the end of a text. -/
def trailingFeeds (s : String) : Nat := (s.toList.reverse.takeWhile (· == '\n')).length

/-- How the line feeds at the end of a block are kept. -/
def blockHeader (s : String) : String :=
  match trailingFeeds s with
  | 0 => "|-"
  | 1 => "|"
  | _ => "|+"

/-- A line without two spaces at its end. -/
def trimPadding (line : String) : String :=
  match line.toList.reverse with
  | ' ' :: ' ' :: rest => String.ofList rest.reverse
  | _ => line

/-- The lines of a block, indented by two spaces.  The line feed that ends the text is understood and not
written, and two spaces at the end of the last line are lost. -/
def blockLines (s : String) : List String :=
  let indented := (splitLines s).map ("  " ++ ·)
  let shown := if indented.getLast? == some "  " && indented.length > 1 then indented.dropLast else indented
  match shown.getLast? with
  | some last => shown.dropLast ++ [trimPadding last]
  | none => shown

/-- The lines of a scalar, the first of which stands behind its key or dash. -/
def scalar (s : String) : List String :=
  if needsQuotes s then [Text.quote s]
  else if s.toList.contains '\n' then blockHeader s :: blockLines s
  else [s]

/-- A member of a mapping. -/
def member (key : String) (lines : List String) : List String :=
  match lines with
  | [] => [key ++ ":"]
  | first :: rest => (key ++ ": " ++ first) :: rest

/-- An item of a sequence: a dash before the first line, and every other line moved in unless empty. -/
def item (lines : List String) : List String :=
  match lines with
  | [] => ["-"]
  | first :: rest => ("- " ++ first) :: rest.map fun l => if l == "" then "" else "  " ++ l

mutual

/-- The lines of a node. -/
def ofNode : Node → List String
  | .mk tag text isGroup children =>
    member "type" (scalar tag) ++ member "value" (scalar text)
      ++ ["is_group: " ++ if isGroup then "true" else "false"]
      ++ if isGroup then
          match children with
          | [] => ["children: []"]
          | n :: ns => "children:" :: ofNodes (n :: ns)
        else []

/-- The lines of a sequence of nodes. -/
def ofNodes : List Node → List String
  | [] => []
  | n :: ns => item (ofNode n) ++ ofNodes ns

end

/-- A line without the two spaces of a block. -/
def outdent (line : String) : String :=
  match line.toList with
  | ' ' :: ' ' :: rest => String.ofList rest
  | _ => line

/-- The lines of a list of texts. -/
def ofTexts : List String → List String
  | [] => ["[]"]
  | texts => texts.flatMap fun s =>
    match scalar s with
    | [] => []
    | first :: rest => item (first :: rest.map outdent)

/-- The text of the lines of a document. -/
def render (lines : List String) : String := String.join (lines.map (· ++ "\n"))

end SqlOutline.Yaml
