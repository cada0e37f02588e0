import SqlOutline.Environment.Basic
import SqlOutline.Text.Space

/-!
# Files of variable definitions

A file that defines variables, one `NAME=value` after the other.  Comments run from `#` to the end of the
line, `export` may stand before a name, a colon may stand for the equals sign, and a value may be quoted.

* `Definitions.parse` : the definitions of a file, the last one first;
* `Environment.define` : adds definitions to an environment, which keeps the variables it has.
-/

namespace SqlOutline.Definitions

/-- Whether a character is blank inside a line. -/
def isBlank (c : Char) : Bool :=
  ['\t', '\x0b', '\x0c', '\r', ' ', '\u0085', '\u00a0'].contains c

/-- Whether a character ends a line. -/
def isLineEnd (c : Char) : Bool := c == '\n' || c == '\r'

/-- The bytes above ASCII that may stand in a name, read as single characters. -/
def nameByteRanges : List (Nat × Nat) :=
  [(0x85, 0x85), (0xA0, 0xA0), (0xAA, 0xAA), (0xB2, 0xB3), (0xB5, 0xB5), (0xB9, 0xBA), (0xBC, 0xBE),
    (0xC0, 0xD6), (0xD8, 0xF6), (0xF8, 0xFF)]

/-- Whether a character may stand in a name.  Outside ASCII every byte of its encoding is looked at. -/
def isNameChar (c : Char) : Bool :=
  if c.toNat < 0x80 then c.isAlphanum || c == '_' || c == '.' || isBlank c
  else (String.utf8EncodeChar c).all fun b =>
    nameByteRanges.any fun (lo, hi) => decide (lo ≤ b.toNat) && decide (b.toNat ≤ hi)

/-- Drops white space and comments before a definition. -/
def skipToStart : (comment : Bool) → List Char → List Char
  | _, [] => []
  | true, c :: cs => if c = '\n' then skipToStart false cs else skipToStart true cs
  | false, c :: cs =>
    if Text.isSpace c then skipToStart false cs
    else if c = '#' then skipToStart true cs
    else c :: cs

/-- Drops the word `export` before a name. -/
def dropExport (cs : List Char) : List Char :=
  if "export".toList.isPrefixOf cs then
    match cs.drop 6 with
    | c :: rest => if isBlank c then rest.dropWhile isBlank else cs
    | [] => cs
  else cs

/-- The name of a definition and what follows its sign.  A text that is all name has no sign, and counts as
the value of the empty name. -/
def name? (cs : List Char) : Option (List Char × List Char) :=
  match cs.dropWhile isNameChar with
  | [] => some ([], cs)
  | c :: rest =>
    if c = '=' ∨ c = ':' then some (Text.dropEndWhile Text.isSpace (cs.takeWhile isNameChar), rest)
    else none

/-- The part of a value that stands before a comment.  The last `#` after a blank starts the comment. -/
def beforeComment (cs : List Char) : List Char :=
  let rec last (found : Option (List Char)) (done : List Char) : List Char → Option (List Char)
    | [] => found
    | c :: rest =>
      match done with
      | b :: _ => last (if c = '#' ∧ isBlank b then some done.reverse else found) (c :: done) rest
      | [] => last found [c] rest
  (last none [] cs).getD cs

/-- The text up to the closing quote and the text after it; a quote after a backslash does not close. -/
def untilQuote (quote : Char) : (last : Char) → List Char → Option (List Char × List Char)
  | _, [] => none
  | last, c :: cs =>
    if c = quote ∧ last ≠ '\\' then some ([], cs)
    else (untilQuote quote c cs).map fun (inside, rest) => (c :: inside, rest)

/-- Replaces the escapes of line ends. -/
def lineEscapes : List Char → List Char
  | '\\' :: 'n' :: cs => '\n' :: lineEscapes cs
  | '\\' :: 'r' :: cs => '\r' :: lineEscapes cs
  | '\\' :: '\n' :: cs => '\\' :: '\n' :: lineEscapes cs
  | '\\' :: c :: cs => '\\' :: c :: lineEscapes cs
  | c :: cs => c :: lineEscapes cs
  | [] => []

/-- Drops the backslash before any character but a dollar sign. -/
def dropBackslashes : List Char → List Char
  | '\\' :: '$' :: cs => '\\' :: '$' :: dropBackslashes cs
  | '\\' :: c :: cs => c :: dropBackslashes cs
  | c :: cs => c :: dropBackslashes cs
  | [] => []

/-- Whether a character may stand in the name of a reference inside a value. -/
def isReferenceChar (c : Char) : Bool := c.isUpper || c.isDigit || c == '_'

/-- Drops one character from the front if it is the given one. -/
def dropOne (c : Char) : List Char → List Char
  | d :: cs => if d = c then cs else d :: cs
  | [] => []

theorem dropOne_length_le (c : Char) (cs : List Char) : (dropOne c cs).length ≤ cs.length := by
  cases cs with
  | nil => simp [dropOne]
  | cons d cs =>
    simp only [dropOne]
    split <;> simp

/-- The name of a reference after its dollar sign, and what follows the reference.  One opening parenthesis
and one brace may stand before the name, and one closing brace after it. -/
def reference (cs : List Char) : List Char × List Char :=
  let start := dropOne '\x7b' (dropOne '(' cs)
  (start.takeWhile isReferenceChar, dropOne '\x7d' (start.dropWhile isReferenceChar))

theorem reference_length_le (cs : List Char) : (reference cs).2.length ≤ cs.length :=
  calc (reference cs).2.length
      ≤ ((dropOne '\x7b' (dropOne '(' cs)).dropWhile isReferenceChar).length := dropOne_length_le _ _
    _ ≤ (dropOne '\x7b' (dropOne '(' cs)).length := (List.dropWhile_suffix _).length_le
    _ ≤ (dropOne '(' cs).length := dropOne_length_le _ _
    _ ≤ cs.length := dropOne_length_le _ _

/-- Replaces the references inside a value by the values defined before.  A backslash keeps a dollar sign as
it is. -/
def substitute (defined : Environment) : List Char → List Char
  | [] => []
  | [c] => [c]
  | c :: d :: cs =>
    if c = '\\' ∧ d = '$' then d :: substitute defined cs
    else if c = '$' ∧ (reference (d :: cs)).1 ≠ [] then
      defined.chars (reference (d :: cs)).1 ++ substitute defined (reference (d :: cs)).2
    else c :: substitute defined (d :: cs)
termination_by cs => cs.length
decreasing_by
  · simp only [List.length_cons]
    omega
  · have := reference_length_le (d :: cs)
    simp only [List.length_cons] at this ⊢
    omega
  · simp

/-- The value of a definition and what follows it. -/
def value? (defined : Environment) (cs : List Char) : Option (List Char × List Char) :=
  match cs with
  | '"' :: rest => (untilQuote '"' '"' rest).map fun (inside, rest) =>
    let text := Text.dropEndWhile (· == '"') (inside.dropWhile (· == '"'))
    (substitute defined (dropBackslashes (lineEscapes text)), rest)
  | '\'' :: rest => (untilQuote '\'' '\'' rest).map fun (inside, rest) =>
    (Text.dropEndWhile (· == '\'') (inside.dropWhile (· == '\'')), rest)
  | _ =>
    let line := beforeComment (cs.takeWhile (!isLineEnd ·))
    let text := Text.dropEndWhile isBlank (line.dropWhile isBlank)
    some (substitute defined text, cs.dropWhile (!isLineEnd ·))

/-- Reads definitions until the text ends. -/
def readAll : (fuel : Nat) → Environment → List Char → Option Environment
  | 0, _, _ => none
  | fuel + 1, defined, cs =>
    match skipToStart false cs with
    | [] => some defined
    | start =>
      match name? (dropExport start) with
      | none => none
      | some (name, rest) =>
        match value? defined (rest.dropWhile isBlank) with
        | none => none
        | some (value, rest) =>
          readAll fuel ⟨(String.ofList name, String.ofList value) :: defined.entries⟩ rest

/-- A text with single line feeds for pairs of carriage return and line feed. -/
def unifyLineEnds : List Char → List Char
  | '\r' :: '\n' :: cs => '\n' :: unifyLineEnds cs
  | c :: cs => c :: unifyLineEnds cs
  | [] => []

/-- The definitions of a file, the last one first. -/
def parse (text : String) : Option Environment :=
  let cs := unifyLineEnds text.toList
  readAll (cs.length + 1) {} cs

/-- Whether a variable can be set. -/
def isSettable (name value : String) : Bool :=
  name != "" && !value.toList.contains '\x00'

end SqlOutline.Definitions

namespace SqlOutline.Environment

/-- Adds the definitions of a file; variables that are set keep their value. -/
def define (env defined : Environment) : Environment :=
  defined.entries.foldl (fun env (name, _) =>
    if Definitions.isSettable name (defined.value name) then env.setDefault name (defined.value name)
    else env) env

end SqlOutline.Environment
