import SqlOutline.Xml.Basic
import SqlOutline.Xml.NameChar

/-!
# Reading XML

A document is read in two steps: the text becomes a list of tags, and the tags become a tree.  Texts,
comments, processing instructions and directives are checked and left out.

* `Xml.tags?` : the tags of a document;
* `Xml.forest?` : the elements that the tags describe;
* `Xml.parse` : the elements at the top of a document;
* `Xml.toNode` : the node that an element stands for.
-/

namespace SqlOutline.Xml

/-- A name with its namespace, which may be empty. -/
structure Name where
  /-- The namespace abbreviation. -/
  space : String := ""
  /-- The name inside the namespace. -/
  name : String
deriving DecidableEq, Repr

/-- A tag of a document. -/
inductive Tag where
  | start (name : Name) (attributes : List (Name × String))
  | finish (name : Name)
deriving DecidableEq, Repr

/-! ### Characters -/

/-- The characters of a document with every line end written as a line feed. -/
def unifyLineEnds : List Char → List Char
  | [] => []
  | ['\r'] => ['\n']
  | c :: d :: cs =>
    if c = '\r' then if d = '\n' then unifyLineEnds (d :: cs) else '\n' :: unifyLineEnds (d :: cs)
    else c :: unifyLineEnds (d :: cs)
  | [c] => [c]

/-- Drops white space. -/
def skipBlank (cs : List Char) : List Char :=
  cs.dropWhile fun c => c == ' ' || c == '\t' || c == '\n' || c == '\r'

/-- The digits of a number in a base up to sixteen, at least one. -/
def digits? (base : Nat) : List Char → Option Nat
  | [] => none
  | cs => cs.foldlM (fun n c =>
      let value :=
        if c.isDigit then c.toNat - 48
        else if 'a' ≤ c ∧ c ≤ 'f' then c.toNat - 87
        else if 'A' ≤ c ∧ c ≤ 'F' then c.toNat - 55
        else base
      if value < base then some (n * base + value) else none) 0

/-- The character with a number; a surrogate becomes the replacement character. -/
def charOfNumber? (n : Nat) : Option Char :=
  if n > 0x10FFFF then none
  else if 0xD800 ≤ n ∧ n ≤ 0xDFFF then some '\ufffd'
  else some (Char.ofNat n)

/-- The character of an entity, given by what stands between the ampersand and the semicolon. -/
def entity? : List Char → Option Char
  | '#' :: 'x' :: ds => (digits? 16 ds).bind charOfNumber?
  | '#' :: ds => (digits? 10 ds).bind charOfNumber?
  | name =>
    match String.ofList name with
    | "lt" => some '<'
    | "gt" => some '>'
    | "amp" => some '&'
    | "apos" => some '\''
    | "quot" => some '"'
    | _ => none

/-- Reads text up to its end: the closing quote of an attribute, or the next tag.  Entities are resolved;
`entity` holds the characters of the one being read, the latest first. -/
def textRun (quote : Option Char) : (entity : Option (List Char)) → List Char →
    Option (List Char × List Char)
  | none, [] => if quote.isNone then some ([], []) else none
  | some _, [] => none
  | some name, c :: cs =>
    if c = ';' then do
      let d ← entity? name.reverse
      if isAllowed d then
        let (text, rest) ← textRun quote none cs
        return (d :: text, rest)
      else none
    else textRun quote (some (c :: name)) cs
  | none, c :: cs =>
    if quote = some c then some ([], cs)
    else if c = '<' then if quote.isNone then some ([], c :: cs) else none
    else if c = '&' then textRun quote (some []) cs
    else if quote.isNone && c == ']' && "]>".toList.isPrefixOf cs then none
    else if isAllowed c then do
      let (text, rest) ← textRun quote none cs
      return (c :: text, rest)
    else none

/-! ### Names and attributes -/

/-- A name at the front of a text. -/
def name? (cs : List Char) : Option (List Char × List Char) :=
  let name := cs.takeWhile isNameLike
  if name.head?.any isNameStart && name.all isNamePart then some (name, cs.drop name.length) else none

/-- A name with its namespace.  At most one colon divides the two parts, of which none is empty. -/
def qualified? (cs : List Char) : Option (Name × List Char) := do
  let (whole, rest) ← name? cs
  let before := whole.takeWhile (· != ':')
  let after := (whole.dropWhile (· != ':')).drop 1
  if after.contains ':' then none
  else if before.isEmpty || after.isEmpty then some (⟨"", String.ofList whole⟩, rest)
  else some (⟨String.ofList before, String.ofList after⟩, rest)

/-- Gives an attribute a value; an earlier value of the same name is replaced where it stands. -/
def setAttribute (name : Name) (value : String) : List (Name × String) → List (Name × String)
  | [] => [(name, value)]
  | (n, v) :: rest => if n = name then (n, value) :: rest else (n, v) :: setAttribute name value rest

/-- The attributes of a start tag up to its end, whether the element is already closed, and the rest. -/
def attributes? : (fuel : Nat) → List (Name × String) → List Char →
    Option (List (Name × String) × Bool × List Char)
  | 0, _, _ => none
  | fuel + 1, found, cs =>
    match skipBlank cs with
    | '>' :: rest => some (found, false, rest)
    | '/' :: '>' :: rest => some (found, true, rest)
    | cs => do
      let (name, rest) ← qualified? cs
      match skipBlank rest with
      | '=' :: rest =>
        match skipBlank rest with
        | quote :: rest =>
          if quote = '"' ∨ quote = '\'' then
            let (value, rest) ← textRun (some quote) none rest
            attributes? fuel (setAttribute name (String.ofList value) found) rest
          else none
        | [] => none
      | _ => none

/-! ### Tags -/

/-- What comes after the first occurrence of a mark. -/
def after? (mark : List Char) : List Char → Option (List Char)
  | [] => none
  | c :: cs =>
    if mark.isPrefixOf (c :: cs) then some ((c :: cs).drop mark.length) else after? mark cs

/-- What comes before the first occurrence of a mark. -/
def before (mark : List Char) : List Char → List Char
  | [] => []
  | c :: cs => if mark.isPrefixOf (c :: cs) then [] else c :: before mark cs

/-- The value of the first quoted setting of the declaration with the given key, empty when there is none. -/
def setting (key : List Char) : List Char → List Char
  | [] => []
  | c :: cs =>
    if key.isPrefixOf (c :: cs) then
      match cs.drop (key.length - 1) with
      | quote :: rest =>
        if quote == '"' || quote == '\'' then
          if rest.contains quote then rest.takeWhile (· != quote) else []
        else setting key (cs.drop key.length)
      | [] => []
    else setting key cs
termination_by cs => cs.length
decreasing_by
  all_goals simp only [List.length_cons, List.length_drop]
  all_goals omega

/-- The rest after a processing instruction.  A declaration must be of version 1.0. -/
def instruction? (cs : List Char) : Option (List Char) := do
  let (target, rest) ← name? cs
  let content := before ['?', '>'] rest
  let rest ← after? ['?', '>'] rest
  let version := setting "version=".toList content
  if target = "xml".toList ∧ version ≠ [] ∧ version ≠ "1.0".toList then none else some rest

/-- The rest after a directive.  Angle brackets outside quotes nest, and comments are passed over. -/
def directive? : (fuel : Nat) → (quote : Option Char) → (depth : Nat) → List Char → Option (List Char)
  | 0, _, _, _ => none
  | _, _, _, [] => none
  | fuel + 1, some q, depth, c :: cs => directive? fuel (if c = q then none else some q) depth cs
  | fuel + 1, none, depth, c :: cs =>
    if c = '>' then if depth = 0 then some cs else directive? fuel none (depth - 1) cs
    else if c = '<' then
      if "!--".toList.isPrefixOf cs then (after? "-->".toList (cs.drop 3)).bind (directive? fuel none depth)
      else directive? fuel none (depth + 1) cs
    else if c = '"' ∨ c = '\'' then directive? fuel (some c) depth cs
    else directive? fuel none depth cs

/-- The rest after the end of a comment, inside which two dashes may not stand. -/
def comment? (cs : List Char) : Option (List Char) :=
  match after? ['-', '-'] cs with
  | some ('>' :: rest) => some rest
  | _ => none

/-- The rest after a section of literal text. -/
def literal? (cs : List Char) : Option (List Char) :=
  if (before [']', ']', '>'] cs).all isAllowed then after? [']', ']', '>'] cs else none

/-- The tags of the first part of a text, and the rest. -/
def step? (cs : List Char) : Option (List Tag × List Char) :=
  match cs with
  | '<' :: '?' :: rest => (instruction? rest).map fun rest => ([], rest)
  | '<' :: '!' :: '-' :: '-' :: rest => (comment? rest).map fun rest => ([], rest)
  | '<' :: '!' :: '-' :: _ => none
  | '<' :: '!' :: '[' :: rest =>
    if "CDATA[".toList.isPrefixOf rest then (literal? (rest.drop 6)).map fun rest => ([], rest) else none
  | '<' :: '!' :: rest => (directive? rest.length none 0 (rest.drop 1)).map fun rest => ([], rest)
  | '<' :: '/' :: rest => do
    let (name, rest) ← qualified? rest
    match skipBlank rest with
    | '>' :: rest => return ([.finish name], rest)
    | _ => none
  | '<' :: rest => do
    let (name, rest) ← qualified? rest
    let (attributes, closed, rest) ← attributes? (rest.length + 1) [] rest
    return (.start name attributes :: if closed then [.finish name] else [], rest)
  | cs => (textRun none none cs).map fun (_, rest) => ([], rest)

/-- All tags of a text. -/
def tags? : (fuel : Nat) → List Char → Option (List Tag)
  | _, [] => some []
  | 0, _ => none
  | fuel + 1, cs => do
    let (tags, rest) ← step? cs
    let more ← tags? fuel rest
    return tags ++ more

/-! ### Elements -/

/-- An element that has been read. -/
inductive Parsed where
  | mk (name : Name) (attributes : List (Name × String)) (children : List Parsed)
deriving Repr

/-- The elements that the rest of the tags describes.  The stack holds the elements that are open, the
latest one first, with the elements before them in reverse order. -/
def forestFrom? : (stack : List (Name × List (Name × String) × List Parsed)) → (level : List Parsed) →
    List Tag → Option (List Parsed)
  | [], level, [] => some level.reverse
  | _ :: _, _, [] => none
  | stack, level, .start name attributes :: tags =>
    forestFrom? ((name, attributes, level) :: stack) [] tags
  | [], _, .finish _ :: _ => none
  | (opened, attributes, outer) :: stack, level, .finish name :: tags =>
    if name = opened then forestFrom? stack (.mk opened attributes level.reverse :: outer) tags
    else none

/-- The elements that the tags of a document describe. -/
def forest? (tags : List Tag) : Option (List Parsed) := forestFrom? [] [] tags

/-- The elements at the top of a document. -/
def parse (s : String) : Option (List Parsed) :=
  let cs := unifyLineEnds s.toList
  (tags? cs.length cs).bind forest?

/-! ### Nodes -/

/-- Why a document holds no node. -/
inductive ReadError where
  /-- The text is no XML document. -/
  | malformed
  /-- No element at the top is called `node`. -/
  | noNode
  /-- The attribute `is_group` is no truth value. -/
  | badFlag
deriving DecidableEq, Repr

/-- The truth values that an attribute may have. -/
def readBool? (s : String) : Option Bool :=
  if ["1", "t", "T", "TRUE", "true", "True"].contains s then some true
  else if ["0", "f", "F", "FALSE", "false", "False"].contains s then some false
  else none

/-- The value of an attribute in any namespace. -/
def attributeValue (key fallback : String) (attributes : List (Name × String)) : String :=
  ((attributes.find? (·.1.name == key)).map (·.2)).getD fallback

mutual

/-- The node of an element.  Only groups have children, which are the elements called `node`. -/
def toNode : Parsed → Except ReadError Node
  | .mk _ attributes children =>
    match readBool? (attributeValue "is_group" "false" attributes) with
    | none => .error .badFlag
    | some isGroup =>
      let node := Node.mk (attributeValue "type" "" attributes) (attributeValue "value" "" attributes) isGroup
      if isGroup then
        match toNodes children with
        | .ok nodes => .ok (node nodes)
        | .error e => .error e
      else .ok (node [])

/-- The nodes of the elements called `node`. -/
def toNodes : List Parsed → Except ReadError (List Node)
  | [] => .ok []
  | .mk name attributes children :: rest =>
    if name.name == "node" then
      match toNode (.mk name attributes children) with
      | .error e => .error e
      | .ok n =>
        match toNodes rest with
        | .ok ns => .ok (n :: ns)
        | .error e => .error e
    else toNodes rest

end

/-- The node of the first element of a document that is called `node`. -/
def readNode (s : String) : Except ReadError Node :=
  match parse s with
  | none => .error .malformed
  | some elements =>
    match elements.find? fun | .mk name _ _ => name.name == "node" with
    | some e => toNode e
    | none => .error .noNode

end SqlOutline.Xml
