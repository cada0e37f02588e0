import SqlOutline.Markdown.Line
import SqlOutline.Text.LetterCase

/-!
# HTML inside Markdown

* `Html.attributes`, `Html.openTag?`, `Html.closeTag?` : tags;
* `Html.inline?` : what follows a tag, comment, instruction, declaration or character data inside a text;
* `Html.Block` : the kinds of HTML blocks, told apart by what ends them;
* `Html.Block.start?`, `Html.Block.endsWith` : which block a line starts, and whether a line is its last one.
-/

namespace SqlOutline.Markdown.Html

/-- What follows a word at the start of a text. -/
def after? (word : String) (cs : List Char) : Option (List Char) :=
  if word.toList.isPrefixOf cs then some (cs.drop word.length) else none

/-- What follows the first place where a word stands. -/
def afterFirst? (word : String) : List Char → Option (List Char)
  | [] => after? word []
  | c :: cs => (after? word (c :: cs)).or (afterFirst? word cs)

/-- Whether a character is white space to HTML. -/
def isWhite (c : Char) : Bool := c == ' ' || c == '\t' || c == '\n' || c == '\x0c' || c == '\r'

/-- Whether a character may stand between attributes. -/
def isGap (c : Char) : Bool := c == ' ' || c == '\t' || c == '\r' || c == '\n'

/-- The name of a tag and what follows it. -/
def tagName? : List Char → Option (List Char × List Char)
  | c :: cs =>
    let inside := fun (d : Char) => d.isAlphanum || d == '-'
    if c.isAlpha then some (c :: cs.takeWhile inside, cs.dropWhile inside) else none
  | [] => none

/-- What follows a text in the given quotes. -/
def quoted? (quote : Char) (cs : List Char) : Option (List Char) :=
  match cs.dropWhile (· != quote) with
  | _ :: rest => some rest
  | [] => none

/-- Whether a character may stand in a value without quotes. -/
def isBare (c : Char) : Bool :=
  decide (0x20 < c.toNat) && !(['"', '\'', '=', '<', '>', '\x60'].contains c)

/-- What follows the value of an attribute. -/
def value? : List Char → Option (List Char)
  | '"' :: cs => quoted? '"' cs
  | '\'' :: cs => quoted? '\'' cs
  | c :: cs => if isBare c then some (cs.dropWhile isBare) else none
  | [] => none

/-- What follows one attribute, which has a gap before it. -/
def oneAttribute? (cs : List Char) : Option (List Char) :=
  match cs with
  | c :: _ =>
    if isGap c then
      match cs.dropWhile isGap with
      | d :: ds =>
        if d.isAlpha || d == '_' || d == ':' then
          let rest := ds.dropWhile fun e => e.isAlphanum || e == ':' || e == '.' || e == '_' || e == '-'
          match rest.dropWhile isGap with
          | '=' :: after => value? (after.dropWhile isGap)
          | _ => some rest
        else none
      | [] => none
    else none
  | [] => none

/-- What follows all attributes. -/
def attributes : (fuel : Nat) → List Char → List Char
  | 0, cs => cs
  | fuel + 1, cs =>
    match oneAttribute? cs with
    | some rest => attributes fuel rest
    | none => cs

/-- What follows blanks and line ends. -/
def skipGap : List Char → List Char
  | '\r' :: '\n' :: cs => skipGap cs
  | c :: cs => if c == ' ' || c == '\t' || c == '\n' then skipGap cs else c :: cs
  | [] => []

/-- What follows an opening tag, from its name on. -/
def openTag? (cs : List Char) : Option (List Char) := do
  let (_, rest) ← tagName? cs
  match skipGap (attributes rest.length rest) with
  | '>' :: rest => some rest
  | '/' :: '>' :: rest => some rest
  | _ => none

/-- What follows a closing tag, from its name on. -/
def closeTag? (cs : List Char) : Option (List Char) := do
  let (_, rest) ← tagName? cs
  match skipGap rest with
  | '>' :: rest => some rest
  | _ => none

/-- What follows a comment, from its text on. -/
def comment? (cs : List Char) : Option (List Char) :=
  ((after? ">" cs).or (after? "->" cs)).or (afterFirst? "-->" cs)

/-- What follows a piece of HTML, from the character after its bracket on. -/
def inline? (cs : List Char) : Option (List Char) :=
  match cs with
  | '/' :: rest => closeTag? rest
  | '?' :: _ => afterFirst? "?>" cs
  | '!' :: '-' :: '-' :: rest => comment? rest
  | '!' :: c :: rest =>
    if c.isUpper then afterFirst? ">" rest
    else (after? "![CDATA[" cs).bind (afterFirst? "]]>")
  | _ => openTag? cs

/-! ### Blocks -/

/-- An HTML block. -/
inductive Block where
  /-- Ends with a closing tag of an element with verbatim content. -/
  | verbatim
  /-- Ends with the given text. -/
  | upTo (closing : String)
  /-- Ends before a blank line. -/
  | element
deriving DecidableEq, Repr

/-- The elements whose content is verbatim. -/
def verbatimNames : List String := ["script", "pre", "style", "textarea"]

/-- The elements that are blocks of their own. -/
def blockNames : List String :=
  ["address", "article", "aside", "base", "basefont", "blockquote", "body", "caption", "center", "col",
    "colgroup", "dd", "details", "dialog", "dir", "div", "dl", "dt", "fieldset", "figcaption", "figure",
    "footer", "form", "frame", "frameset", "h1", "h2", "h3", "h4", "h5", "h6", "head", "header", "hr", "html",
    "iframe", "legend", "li", "link", "main", "menu", "menuitem", "meta", "nav", "noframes", "ol", "optgroup",
    "option", "p", "param", "search", "section", "summary", "table", "tbody", "td", "tfoot", "th", "thead",
    "title", "tr", "track", "ul"]

/-- Whether a name is in a list, in any letter case. -/
def isNamed (names : List String) (name : List Char) : Bool :=
  names.contains (String.ofList (name.map Text.lowerChar))

/-- Whether a line ends here. -/
def atEnd (cs : List Char) : Bool := cs == [] || cs == ['\n'] || cs == ['\r', '\n']

/-- Whether a text may follow the name of a tag. -/
def endsName (gap : Char → Bool) (cs : List Char) : Bool :=
  atEnd cs ||
    match cs with
    | '>' :: _ => true
    | '/' :: '>' :: _ => true
    | c :: _ => gap c
    | [] => false

/-- What follows the name of an element with verbatim content, for each name that the text starts with. -/
def afterVerbatimName (cs : List Char) : List (List Char) :=
  (verbatimNames.filter fun name => Text.foldsTo (String.ofList (cs.take name.length)) name).map fun name =>
    cs.drop name.length

/-- Whether a line has a closing tag of an element with verbatim content. -/
def hasVerbatimEnd : List Char → Bool
  | [] => false
  | c :: cs =>
    ((after? "</" (c :: cs)).any fun rest => (afterVerbatimName rest).any fun after => after.head? == some '>')
      || hasVerbatimEnd cs

/-- Whether a line is the last one of a block that ends inside a line. -/
def Block.endsWith (b : Block) (line : List Char) : Bool :=
  match b with
  | verbatim => hasVerbatimEnd line
  | upTo closing => (afterFirst? closing line).isSome
  | element => false

/-- Whether nothing but the attributes and the end of one tag follows its name on a line. -/
def isLoneTag (afterName : List Char) : Bool :=
  match (attributes afterName.length afterName).dropWhile (· == ' ') with
  | '>' :: after => atEnd (after.dropWhile (· == ' '))
  | '/' :: '>' :: after => atEnd (after.dropWhile (· == ' '))
  | _ => false

/-- Whether attributes follow the name of a tag. -/
def hasAttributes (afterName : List Char) : Bool := (oneAttribute? afterName).isSome

/-- The block that a tag starts, from the character after its bracket on.  A tag alone on its line does not
interrupt a paragraph, and a closing one has no attributes. -/
def Block.ofTag? (afterParagraph : Bool) (cs : List Char) : Option Block :=
  let start :=
    match cs with
    | '/' :: rest => rest.dropWhile (· == ' ')
    | _ => cs
  let closing := start.length + 1 == cs.length
  match tagName? start with
  | none => none
  | some (name, rest) =>
    if isNamed blockNames name then
      if endsName (· == ' ') rest || isLoneTag rest then some element else none
    else if isLoneTag rest && !isNamed ["script", "style", "pre"] name && !afterParagraph
        && !(closing && hasAttributes rest) then some element
    else none

/-- The block that a line starts, from its bracket on. -/
def Block.start? (afterParagraph : Bool) (line : List Char) : Option Block :=
  match line with
  | '<' :: cs =>
    if (afterVerbatimName cs).any (endsName isWhite) then some verbatim
    else
      match cs with
      | '!' :: '-' :: '-' :: _ => some (upTo "-->")
      | '?' :: _ => some (upTo "?>")
      | '!' :: c :: rest =>
        if c.isUpper then some (upTo ">")
        else if (after? "[CDATA[" (c :: rest)).isSome then some (upTo "]]>")
        else none
      | _ => ofTag? afterParagraph cs
  | _ => none

end SqlOutline.Markdown.Html
