import SqlOutline.Yaml.Lexeme.Basic

/-!
# Quoted scalars of YAML

A text in quotes may run over several lines: a line break is a space, every further one a line feed, and the
blanks around breaks are dropped.

* `Yaml.QuotedEnd` : what a quoted scalar stands for, and where reading goes on;
* `Yaml.singleQuoted?` : a text in single quotes, in which a doubled quote stands for one;
* `Yaml.doubleQuoted?` : a text in double quotes, in which a backslash starts an escape.
-/

namespace SqlOutline.Yaml

/-- What a quoted scalar stands for, and where reading goes on. -/
structure QuotedEnd where
  /-- The text, last character first. -/
  text : List Char := []
  /-- The characters that were read, last one first. -/
  raw : List Char := []
  /-- The line. -/
  line : Nat
  /-- The column. -/
  column : Nat
  /-- Whether nothing but blanks was read since the last line break. -/
  fresh : Bool := false
  /-- The number of characters behind the closing quote that are passed over. -/
  passed : Nat := 0
  /-- The characters that follow. -/
  rest : List Char := []

namespace QuotedEnd

/-- Moves over a character. -/
def move (q : QuotedEnd) (c : Char) : QuotedEnd := { q with raw := c :: q.raw, column := q.column + 1 }

/-- Moves over a character that belongs to the text. -/
def add (q : QuotedEnd) (c : Char) : QuotedEnd := { q.move c with text := c :: q.text, fresh := false }

/-- Moves over a line break. -/
def breakLine (q : QuotedEnd) (c : Char) : QuotedEnd :=
  { q with
    text := (if q.fresh then '\n' else ' ') :: q.text.dropWhile (· == ' ')
    raw := c :: q.raw
    line := q.line + 1
    column := 1
    fresh := true }

/-- Ends the text before the given characters. -/
def close (q : QuotedEnd) (rest : List Char) : QuotedEnd := { q.move '"' with rest }

end QuotedEnd

/-- Reads a text in single quotes up to its end.  `delimiter` is the column of the key or item that the text
belongs to; tabs at the start of a line must stand behind it. -/
def singleQuoted? (delimiter : Nat) (q : QuotedEnd) : List Char → Option QuotedEnd
  | [] => none
  | c :: cs =>
    if isBreak c then if startsMarker cs then none else singleQuoted? delimiter (q.breakLine c) cs
    else if q.fresh && c == ' ' then singleQuoted? delimiter (q.move c) cs
    else if q.fresh && c == '\t' then
      if delimiter ≥ q.column then none else singleQuoted? delimiter (q.move c) cs
    else if c != '\'' then singleQuoted? delimiter (q.add c) cs
    else
      match cs with
      | '\'' :: rest => singleQuoted? delimiter { (q.move c).move c with text := c :: q.text } rest
      | rest => some (q.close rest)

/-! ### Escapes -/

/-- The value of a character as a hexadecimal digit.  Characters that are no digits count by their distance
from the digit zero. -/
def digitValue (c : Char) : Int :=
  if 'A' ≤ c ∧ c ≤ 'F' then c.toNat - 55
  else if 'a' ≤ c ∧ c ≤ 'f' then c.toNat - 87
  else c.toNat - 48

/-- The number that characters write in base sixteen. -/
def codeOf (cs : List Char) : Int := cs.foldl (fun n c => n * 16 + digitValue c) 0

/-- The character with a code, cut to 32 bits; the replacement character where there is none. -/
def charOf (code : Int) : Char :=
  let n := Int.bmod code UInt32.size
  if 0 ≤ n ∧ n.toNat.isValidChar then Char.ofNat n.toNat else '\ufffd'

/-- The character of an escape of one letter. -/
def escape? : Char → Option Char
  | '0' => some '\x00'
  | 'a' => some '\x07'
  | 'b' => some '\x08'
  | 't' => some '\t'
  | 'n' => some '\n'
  | 'v' => some '\x0b'
  | 'f' => some '\x0c'
  | 'r' => some '\r'
  | 'e' => some '\x1b'
  | ' ' => some ' '
  | '"' => some '"'
  | '/' => some '/'
  | '\\' => some '\\'
  | 'N' => some '\u0085'
  | '_' => some '\u00a0'
  | 'L' => some '\u2028'
  | 'P' => some '\u2029'
  | '\t' => some '\t'
  | _ => none

/-- The character of an escape of four digits and the number of digits and letters read.  The first half of a
pair must be followed by the second. -/
def unitEscape? (cs : List Char) : Option (Char × Nat) :=
  let high := codeOf (cs.take 4)
  if cs.length < 4 then none
  else if 0xd800 ≤ high ∧ high ≤ 0xdbff then
    let low := codeOf ((cs.drop 6).take 4)
    if cs.length ≥ 10 ∧ (cs.drop 4).take 2 = ['\\', 'u'] ∧ 0xdc00 ≤ low ∧ low ≤ 0xdfff then
      some (charOf (0x10000 + (high - 0xd800) * 0x400 + (low - 0xdc00)), 10)
    else none
  else some (charOf high, 4)

/-- The character of an escape behind its backslash, and the number of characters read. -/
def escaped? : List Char → Option (Char × Nat)
  | [] => none
  | 'x' :: cs => if cs.length < 2 then some ('x', 1) else some (charOf (codeOf (cs.take 2)), 3)
  | 'u' :: cs => (unitEscape? cs).map fun (c, n) => (c, n + 1)
  | 'U' :: cs => if cs.length < 8 then none else some (charOf (codeOf (cs.take 8)), 9)
  | c :: _ => (escape? c).map fun d => (d, 1)

/-- Reads a text in double quotes up to its end.  A tab with nothing but blanks behind it in its line is
dropped; for any other tab that is not the last character, a character behind the closing quote is passed
over. -/
def doubleQuoted? (delimiter : Nat) : (fuel : Nat) → QuotedEnd → List Char → Option QuotedEnd
  | 0, _, _ => none
  | _, _, [] => none
  | fuel + 1, q, c :: cs =>
    if isBreak c then if startsMarker cs then none else doubleQuoted? delimiter fuel (q.breakLine c) cs
    else if q.fresh && c == ' ' then doubleQuoted? delimiter fuel (q.move c) cs
    else if q.fresh && c == '\t' then
      if delimiter ≥ q.column then none else doubleQuoted? delimiter fuel (q.move c) cs
    else if c == '\\' then
      match cs with
      | d :: rest =>
        if isBreak d then
          let rest := if d == '\r' && rest.head? == some '\n' then rest.drop 1 else rest
          doubleQuoted? delimiter fuel
            { q with raw := d :: c :: q.raw, line := q.line + 1, column := 1, fresh := true } rest
        else
          match escaped? cs with
          | none => none
          | some (e, n) =>
            doubleQuoted? delimiter fuel { q.add e with column := q.column + 1 + n } (cs.drop n)
      | [] => none
    else if c == '\t' then
      if (cs.takeWhile (!isBreak ·)).all isBlank then
        doubleQuoted? delimiter fuel (q.move c) (cs.dropWhile isBlank)
      else if cs.head? == some '"' then doubleQuoted? delimiter fuel { q.move c with text := c :: q.text } cs
      else
        doubleQuoted? delimiter fuel
          { q.move c with text := c :: q.text, column := q.column + 2, passed := q.passed + 1 } cs
    else if c != '"' then doubleQuoted? delimiter fuel (q.add c) cs
    else some (q.close (cs.drop q.passed))

end SqlOutline.Yaml
