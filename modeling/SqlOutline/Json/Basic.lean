import SqlOutline.Text.Quoted

/-!
# JSON values and their text

* `Json` : the values;
* `Json.depth`, `Json.maxDepth` : how deep the brackets and braces of a value nest, and how deep they may;
* `Json.Style` : compact or indented, and which characters are escaped beyond need;
* `Json.render` : the text of a value.
-/

namespace SqlOutline

/-- A JSON value. -/
inductive Json where
  | null
  | bool (value : Bool)
  /-- A number, as it is written. -/
  | number (digits : String)
  | string (value : String)
  | array (items : List Json)
  /-- An object with its members in order. -/
  | object (members : List (String × Json))
deriving Repr

namespace Json

/-! ### Depth -/

mutual

/-- How deep the brackets and braces of a value nest. -/
def depth : Json → Nat
  | null | bool _ | number _ | string _ => 0
  | array items => depthOfItems items + 1
  | object members => depthOfMembers members + 1

/-- The same for the items of an array. -/
def depthOfItems : List Json → Nat
  | [] => 0
  | j :: js => max (depth j) (depthOfItems js)

/-- The same for the members of an object. -/
def depthOfMembers : List (String × Json) → Nat
  | [] => 0
  | (_, j) :: ms => max (depth j) (depthOfMembers ms)

end

/-- How deep brackets and braces may nest, so that neither the reader nor the writer runs out of stack. -/
def maxDepth : Nat := 10000

/-! ### Text -/

/-- How values are written. -/
structure Style where
  /-- Put every item and member on a line of its own, two spaces further in. -/
  pretty : Bool := false
  /-- Escape angle brackets and ampersands. -/
  escapeMarkup : Bool := true
deriving DecidableEq, Repr

/-- A character inside a text. -/
def escapeChar (escapeMarkup : Bool) (c : Char) : List Char :=
  if c = '"' then ['\\', '"']
  else if c = '\\' then ['\\', '\\']
  else if c = '\x08' then ['\\', 'b']
  else if c = '\x0c' then ['\\', 'f']
  else if c = '\n' then ['\\', 'n']
  else if c = '\r' then ['\\', 'r']
  else if c = '\t' then ['\\', 't']
  else if c.toNat < 0x20 ∨ c = '\u2028' ∨ c = '\u2029' ∨
      (escapeMarkup = true ∧ (c = '<' ∨ c = '>' ∨ c = '&')) then
    '\\' :: 'u' :: Text.hex 4 c.toNat
  else [c]

/-- A text between quotes. -/
def quoted (style : Style) (s : String) : List Char :=
  '"' :: (s.toList.flatMap (escapeChar style.escapeMarkup) ++ ['"'])

/-- The line break before an item of the given level. -/
def Style.newline (style : Style) (level : Nat) : List Char :=
  if style.pretty then '\n' :: List.replicate (2 * level) ' ' else []

/-- What stands between a key and its value. -/
def Style.colon (style : Style) : List Char := if style.pretty then [':', ' '] else [':']

mutual

/-- The text of a value whose items are on the given level. -/
def write (style : Style) (level : Nat) : Json → List Char
  | null => "null".toList
  | bool true => "true".toList
  | bool false => "false".toList
  | number digits => digits.toList
  | string s => quoted style s
  | array [] => ['[', ']']
  | array (j :: js) =>
    '[' :: (style.newline (level + 1) ++ (write style (level + 1) j ++ (writeItems style (level + 1) js
      ++ (style.newline level ++ [']']))))
  | object [] => ['\x7b', '\x7d']
  | object ((k, j) :: ms) =>
    '\x7b' :: (style.newline (level + 1) ++ (quoted style k ++ (style.colon ++ (write style (level + 1) j
      ++ (writeMembers style (level + 1) ms ++ (style.newline level ++ ['\x7d']))))))

/-- The text of the items after the first one. -/
def writeItems (style : Style) (level : Nat) : List Json → List Char
  | [] => []
  | j :: js => ',' :: (style.newline level ++ (write style level j ++ writeItems style level js))

/-- The text of the members after the first one. -/
def writeMembers (style : Style) (level : Nat) : List (String × Json) → List Char
  | [] => []
  | (k, j) :: ms =>
    ',' :: (style.newline level ++ (quoted style k ++ (style.colon ++ (write style level j
      ++ writeMembers style level ms))))

end

/-- The text of a value, ended by a line feed. -/
def render (style : Style) (j : Json) : String := String.ofList (write style 0 j ++ ['\n'])

end Json

end SqlOutline
