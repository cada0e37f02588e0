import SqlOutline.Outline.Node

/-!
# XML elements and their text

* `Xml.Element` : an element with attributes, and either a text or child elements inside;
* `Xml.isAllowed` : the characters that a document may hold;
* `Xml.escape` : markup characters become entities, characters that are not allowed become the
  replacement character, and all others stay;
* `Xml.render` : the text of a document with one element, after the declaration;
* `Xml.ofNode`, `Xml.ofTexts` : the documents of a node and of a list of texts.
-/

namespace SqlOutline.Xml

/-- An element to be written. -/
inductive Element where
  /-- An element with a text inside, which may be empty. -/
  | text (name : String) (attributes : List (String × String)) (content : String)
  /-- An element with elements inside. -/
  | node (name : String) (attributes : List (String × String)) (children : List Element)
deriving Repr

/-- Whether a document may hold the character. -/
def isAllowed (c : Char) : Bool :=
  let n := c.toNat
  n == 9 || n == 10 || n == 13 || (decide (0x20 ≤ n) && decide (n ≤ 0xD7FF))
    || (decide (0xE000 ≤ n) && decide (n ≤ 0xFFFD)) || decide (0x10000 ≤ n)

/-- A character as it is written. -/
def escapeChar (c : Char) : List Char :=
  if c = '&' then "&amp;".toList
  else if c = '<' then "&lt;".toList
  else if c = '>' then "&gt;".toList
  else if c = '\'' then "&apos;".toList
  else if c = '"' then "&quot;".toList
  else if isAllowed c then [c]
  else ['\ufffd']

/-- A text as it is written, in attributes as well as between tags. -/
def escape (s : String) : List Char := s.toList.flatMap escapeChar

/-- The attributes of a start tag. -/
def writeAttributes (attributes : List (String × String)) : List Char :=
  attributes.flatMap fun (name, value) =>
    ' ' :: (name.toList ++ '=' :: '"' :: (escape value ++ ['"']))

/-- The line break before an element of the given level. -/
def newline (pretty : Bool) (level : Nat) : List Char :=
  if pretty then '\n' :: List.replicate (2 * level) ' ' else []

/-- The start of a tag. -/
def openTag (name : String) (attributes : List (String × String)) : List Char :=
  '<' :: (name.toList ++ writeAttributes attributes)

/-- An end tag. -/
def closeTag (name : String) : List Char := '<' :: '/' :: (name.toList ++ ['>'])

mutual

/-- The text of an element of the given level. -/
def write (pretty : Bool) (level : Nat) : Element → List Char
  | .text name attributes content =>
    if content == "" then openTag name attributes ++ ['/', '>']
    else openTag name attributes ++ '>' :: (escape content ++ closeTag name)
  | .node name attributes [] => openTag name attributes ++ ['/', '>']
  | .node name attributes (e :: es) =>
    openTag name attributes ++ '>' :: (newline pretty (level + 1) ++ (write pretty (level + 1) e
      ++ (writeAll pretty (level + 1) es ++ (newline pretty level ++ closeTag name))))

/-- The text of the elements after the first one. -/
def writeAll (pretty : Bool) (level : Nat) : List Element → List Char
  | [] => []
  | e :: es => newline pretty level ++ (write pretty level e ++ writeAll pretty level es)

end

/-- The declaration at the start of a document. -/
def declaration : String := "<?xml version=\"1.0\" encoding=\"UTF-8\"?>"

/-- The text of a document. -/
def render (pretty : Bool) (e : Element) : String :=
  String.ofList (declaration.toList ++ newline pretty 0 ++ write pretty 0 e ++ newline pretty 0)

/-! ### Documents -/

/-- A truth value in an attribute. -/
def showBool (b : Bool) : String := if b then "true" else "false"

mutual

/-- The element of a node. -/
def ofNode : Node → Element
  | .mk tag text isGroup children =>
    .node "node" [("type", tag), ("is_group", showBool isGroup), ("value", text)] (ofNodes children)

/-- The elements of a list of nodes. -/
def ofNodes : List Node → List Element
  | [] => []
  | n :: ns => ofNode n :: ofNodes ns

end

/-- The element of a list of texts. -/
def ofTexts (texts : List String) : Element := .node "tokens" [] (texts.map (.text "token" []))

end SqlOutline.Xml
