import SqlOutline.Text.Double
import SqlOutline.Filter.Expr

/-!
# Words of filter expressions

`Filter.words?` cuts the text of an expression into names, constants and marks.
-/

namespace SqlOutline.Filter

/-- A word of an expression. -/
inductive Word where
  | name (text : String)
  /-- A whole number without its sign. -/
  | int (value : Nat)
  /-- A whole number that never has a sign. -/
  | uint (value : Nat)
  | double (value : Float)
  | string (value : String)
  | bytes (value : List UInt8)
  /-- An operator, bracket or other mark. -/
  | mark (text : String)
deriving Repr

/-- The number that digits of a base write, at least one of them. -/
def digits? (base : Nat) : List Char → Option Nat
  | [] => none
  | cs => cs.foldlM (fun n c =>
      let value :=
        if c.isDigit then c.toNat - 48
        else if 'a' ≤ c ∧ c ≤ 'f' then c.toNat - 87
        else if 'A' ≤ c ∧ c ≤ 'F' then c.toNat - 55
        else base
      if value < base then some (n * base + value) else none) 0

/-! ### Texts -/

/-- A unit of a text. -/
inductive TextUnit where
  | char (c : Char)
  | byte (b : UInt8)

/-- The bytes of a unit. -/
def TextUnit.toBytes : TextUnit → List UInt8
  | char c => (String.singleton c).toUTF8.toList
  | byte b => [b]

/-- The number that hexadecimal digits write, and the rest. -/
def hexNumber? (width : Nat) (cs : List Char) : Option (Nat × List Char) := do
  if cs.length < width then failure
  return (← digits? 16 (cs.take width), cs.drop width)

/-- The unit of an escape, given by what comes after the backslash, and the rest.  Among bytes a number stands
for a byte, and there are no characters by number. -/
def escape? (inBytes : Bool) : List Char → Option (TextUnit × List Char)
  | [] => none
  | c :: cs =>
    let unit := fun (n : Nat) =>
      if inBytes then some (TextUnit.byte n.toUInt8)
      else if n.isValidChar then some (.char (Char.ofNat n))
      else none
    let named := fun (d : Char) => some (TextUnit.char d, cs)
    let numbered := fun (width : Nat) => do
      let (n, rest) ← hexNumber? width cs
      return (← unit n, rest)
    match c with
    | 'a' => named '\x07'
    | 'b' => named '\x08'
    | 'f' => named '\x0c'
    | 'n' => named '\n'
    | 'r' => named '\r'
    | 't' => named '\t'
    | 'v' => named '\x0b'
    | '"' => named '"'
    | '\'' => named '\''
    | '\\' => named '\\'
    | '?' => named '?'
    | '\x60' => named '\x60'
    | 'x' => numbered 2
    | 'X' => numbered 2
    | 'u' => if inBytes then none else numbered 4
    | 'U' => if inBytes then none else numbered 8
    | _ =>
      if '0' ≤ c ∧ c ≤ '3' then do
        if cs.length < 2 then failure
        let n ← digits? 8 (c :: cs.take 2)
        return (← unit n, cs.drop 2)
      else none

/-- How a text is written. -/
structure TextStyle where
  /-- Whether a backslash is an ordinary character. -/
  raw : Bool := false
  /-- Whether the text stands for bytes. -/
  inBytes : Bool := false

/-- A text up to its closing mark: one quote, or three of them for a text of several lines. -/
def text? (style : TextStyle) (close : List Char) : (fuel : Nat) → List Char →
    Option (List TextUnit × List Char)
  | 0, _ => none
  | fuel + 1, cs =>
    if close.isPrefixOf cs then some ([], cs.drop close.length)
    else
      match cs with
      | [] => none
      | c :: rest =>
        if close.length == 1 && (c == '\n' || c == '\r') then none
        else do
          let (d, rest) ← if c = '\\' ∧ !style.raw then escape? style.inBytes rest else some (.char c, rest)
          let (text, rest) ← text? style close fuel rest
          return (d :: text, rest)

/-- A text that starts with a quote, and the rest. -/
def quoted? (style : TextStyle) (cs : List Char) : Option (Word × List Char) :=
  match cs with
  | [] => none
  | q :: _ =>
    let close := if [q, q, q].isPrefixOf cs then [q, q, q] else [q]
    (text? style close (cs.length + 1) (cs.drop close.length)).map fun (units, rest) =>
      if style.inBytes then (.bytes (units.flatMap TextUnit.toBytes), rest)
      else
        (.string (String.ofList (units.filterMap fun
          | .char c => some c
          | .byte _ => none)), rest)

/-- The style that the letters before a quote ask for, and the text from the quote on.  A `b` stands for bytes,
and an `r` after it for a raw text. -/
def textStart? (cs : List Char) : Option (TextStyle × List Char) :=
  let isQuote := fun (c : Char) => c == '"' || c == '\''
  match cs with
  | [] => none
  | c :: rest =>
    if isQuote c then some ({}, cs)
    else
      match c.toLower, rest with
      | 'r', d :: _ => if isQuote d then some ({ raw := true }, rest) else none
      | 'b', d :: more =>
        if isQuote d then some ({ inBytes := true }, rest)
        else if d.toLower == 'r' && more.head?.any isQuote then some ({ raw := true, inBytes := true }, more)
        else none
      | _, _ => none

/-! ### Numbers -/

/-- The length of an exponent with its mark, zero when there is none. -/
def exponentLength : List Char → Nat
  | c :: cs =>
    if c = 'e' ∨ c = 'E' then
      let sign :=
        match cs with
        | '+' :: _ => 1
        | '-' :: _ => 1
        | _ => 0
      match ((cs.drop sign).takeWhile Char.isDigit).length with
      | 0 => 0
      | n => 1 + sign + n
    else 0
  | [] => 0

/-- The length of a fraction with its point, zero when there is none. -/
def fractionLength : List Char → Nat
  | '.' :: cs =>
    match (cs.takeWhile Char.isDigit).length with
    | 0 => 0
    | n => n + 1
  | _ => 0

/-- A whole number and the text after it, of which a `u` belongs to the number. -/
def wholeNumber (n : Nat) (rest : List Char) : Word × List Char :=
  match rest with
  | 'u' :: rest => (.uint n, rest)
  | 'U' :: rest => (.uint n, rest)
  | _ => (.int n, rest)

/-- A number at the front, and the rest. -/
def number? (cs : List Char) : Option (Word × List Char) :=
  let isHex := fun (c : Char) => c.isDigit || decide ('a' ≤ c ∧ c ≤ 'f') || decide ('A' ≤ c ∧ c ≤ 'F')
  match cs with
  | '0' :: 'x' :: rest =>
    let ds := rest.takeWhile isHex
    (digits? 16 ds).map fun n => wholeNumber n (rest.drop ds.length)
  | _ =>
    let whole := (cs.takeWhile Char.isDigit).length
    let fraction := fractionLength (cs.drop whole)
    let exponent := exponentLength (cs.drop (whole + fraction))
    let length := whole + fraction + exponent
    if fraction + exponent == 0 then (digits? 10 (cs.take whole)).map fun n => wholeNumber n (cs.drop whole)
    else (Double.parse? (String.ofList (cs.take length))).map fun x => (.double x, cs.drop length)

/-! ### Words -/

/-- Whether a name may start with the character. -/
def isNameStart (c : Char) : Bool := c.isAlpha || c == '_'

/-- Whether a name may go on with the character. -/
def isNamePart (c : Char) : Bool := c.isAlphanum || c == '_'

/-- The words of a text. -/
def words? : (fuel : Nat) → List Char → Option (List Word)
  | _, [] => some []
  | 0, _ => none
  | fuel + 1, c :: cs =>
    let after := fun (r : Option (Word × List Char)) => do
      let (w, rest) ← r
      return w :: (← words? fuel rest)
    if c == ' ' || c == '\t' || c == '\n' || c == '\r' || c == '\x0c' then words? fuel cs
    else if c = '/' ∧ cs.head? = some '/' then words? fuel (cs.dropWhile (· != '\n'))
    else if (textStart? (c :: cs)).isSome then
      after ((textStart? (c :: cs)).bind fun (style, start) => quoted? style start)
    else if c.isDigit || (c == '.' && cs.head?.any Char.isDigit) then after (number? (c :: cs))
    else if isNameStart c then
      after (some (.name (String.ofList (c :: cs.takeWhile isNamePart)), cs.dropWhile isNamePart))
    else
      let pair := String.ofList (c :: cs.take 1)
      if ["==", "!=", "<=", ">=", "&&", "||"].contains pair then
        after (some (.mark pair, cs.drop 1))
      else if "<>!-*/%+?:.,()[]\x7b\x7d".toList.contains c then after (some (.mark (String.singleton c), cs))
      else none

end SqlOutline.Filter
