import SqlOutline.Json.Basic

/-!
# Reading JSON

`Json.parse` reads a text that holds one JSON value with white space around it.  A text may hold any
escape; a surrogate without its partner is read as the replacement character.  Texts whose brackets and
braces nest deeper than `Json.maxDepth` are rejected.
-/

namespace SqlOutline.Json

/-! ### Characters -/

/-- Drops white space. -/
def skipBlank (cs : List Char) : List Char :=
  cs.dropWhile fun c => c == ' ' || c == '\t' || c == '\n' || c == '\r'

/-- The value of a hexadecimal digit. -/
def hexValue? (c : Char) : Option Nat :=
  if '0' ≤ c ∧ c ≤ '9' then some (c.toNat - 48)
  else if 'a' ≤ c ∧ c ≤ 'f' then some (c.toNat - 87)
  else if 'A' ≤ c ∧ c ≤ 'F' then some (c.toNat - 55)
  else none

/-- The number written by four hexadecimal digits. -/
def hexNumber? (a b c d : Char) : Option Nat := do
  return (((← hexValue? a) * 16 + (← hexValue? b)) * 16 + (← hexValue? c)) * 16 + (← hexValue? d)

/-- The character that a one-letter escape stands for. -/
def unescape? : Char → Option Char
  | '"' => some '"'
  | '\\' => some '\\'
  | '/' => some '/'
  | 'b' => some '\x08'
  | 'f' => some '\x0c'
  | 'n' => some '\n'
  | 'r' => some '\r'
  | 't' => some '\t'
  | _ => none

/-- The code units of a text up to its closing quote, and what comes after it. -/
def stringUnits : List Char → Option (List Nat × List Char)
  | [] => none
  | '"' :: rest => some ([], rest)
  | '\\' :: 'u' :: a :: b :: c :: d :: rest => do
    let unit ← hexNumber? a b c d
    let (units, rest) ← stringUnits rest
    return (unit :: units, rest)
  | '\\' :: e :: rest => do
    let c ← unescape? e
    let (units, rest) ← stringUnits rest
    return (c.toNat :: units, rest)
  | c :: rest =>
    if c.toNat < 0x20 ∨ c = '\\' then none
    else do
      let (units, rest) ← stringUnits rest
      return (c.toNat :: units, rest)

/-- Whether a code unit is the first half of a pair. -/
def isHigh (n : Nat) : Bool := decide (0xD800 ≤ n) && decide (n < 0xDC00)

/-- Whether a code unit is the second half of a pair. -/
def isLow (n : Nat) : Bool := decide (0xDC00 ≤ n) && decide (n < 0xE000)

/-- The characters of a list of code units. -/
def joinUnits : List Nat → List Char
  | [] => []
  | [n] => [if isHigh n || isLow n then '\ufffd' else Char.ofNat n]
  | n :: m :: rest =>
    if isHigh n && isLow m then
      Char.ofNat (0x10000 + (n - 0xD800) * 0x400 + (m - 0xDC00)) :: joinUnits rest
    else (if isHigh n || isLow n then '\ufffd' else Char.ofNat n) :: joinUnits (m :: rest)

/-- A text after its opening quote, and what comes after it. -/
def stringBody (cs : List Char) : Option (String × List Char) := do
  let (units, rest) ← stringUnits cs
  return (String.ofList (joinUnits units), rest)

/-! ### Numbers -/

/-- The leading digits, at least one. -/
def digits1? (cs : List Char) : Option (List Char × List Char) :=
  match cs.span Char.isDigit with
  | ([], _) => none
  | parts => some parts

/-- The whole part of a number: a zero, or digits that do not start with one. -/
def wholePart? : List Char → Option (List Char × List Char)
  | '0' :: rest => some (['0'], rest)
  | cs => digits1? cs

/-- The fraction of a number, which may be missing. -/
def fraction? : List Char → Option (List Char × List Char)
  | '.' :: rest => do
    let (ds, rest) ← digits1? rest
    return ('.' :: ds, rest)
  | cs => some ([], cs)

/-- The exponent of a number, which may be missing. -/
def exponent? : List Char → Option (List Char × List Char)
  | [] => some ([], [])
  | c :: rest =>
    if c = 'e' ∨ c = 'E' then
      match rest with
      | '+' :: rest => do
        let (ds, rest) ← digits1? rest
        return (c :: '+' :: ds, rest)
      | '-' :: rest => do
        let (ds, rest) ← digits1? rest
        return (c :: '-' :: ds, rest)
      | rest => do
        let (ds, rest) ← digits1? rest
        return (c :: ds, rest)
    else some ([], c :: rest)

/-- A number without its sign. -/
def unsigned? (cs : List Char) : Option (List Char × List Char) := do
  let (whole, cs) ← wholePart? cs
  let (frac, cs) ← fraction? cs
  let (exp, cs) ← exponent? cs
  return (whole ++ frac ++ exp, cs)

/-- A number. -/
def number? : List Char → Option (Json × List Char)
  | '-' :: rest => do
    let (ds, rest) ← unsigned? rest
    return (number (String.ofList ('-' :: ds)), rest)
  | cs => do
    let (ds, rest) ← unsigned? cs
    return (number (String.ofList ds), rest)

/-! ### Values -/

/-- Takes a fixed word off the front of a text. -/
def word? (word : String) (value : Json) (cs : List Char) : Option (Json × List Char) :=
  if word.toList.isPrefixOf cs then some (value, cs.drop word.length) else none

mutual

/-- A value at the front of a text, and what comes after it.  The room is the number of brackets and braces
that may still be opened inside each other. -/
def value? : (fuel room : Nat) → List Char → Option (Json × List Char)
  | 0, _, _ => none
  | fuel + 1, room, cs =>
    match skipBlank cs with
    | [] => none
    | '"' :: rest => do
      let (s, rest) ← stringBody rest
      return (string s, rest)
    | '[' :: rest =>
      match room with
      | 0 => none
      | room + 1 =>
        match skipBlank rest with
        | ']' :: rest => some (array [], rest)
        | _ => do
          let (j, rest) ← value? fuel room rest
          let (js, rest) ← items? fuel room rest
          return (array (j :: js), rest)
    | '\x7b' :: rest =>
      match room with
      | 0 => none
      | room + 1 =>
        match skipBlank rest with
        | '\x7d' :: rest => some (object [], rest)
        | _ => do
          let (m, rest) ← member? fuel room rest
          let (ms, rest) ← members? fuel room rest
          return (object (m :: ms), rest)
    | 'n' :: rest => word? "ull" null rest
    | 't' :: rest => word? "rue" (bool true) rest
    | 'f' :: rest => word? "alse" (bool false) rest
    | cs => number? cs
  termination_by structural fuel => fuel

/-- The items after the first one, up to the closing bracket. -/
def items? : (fuel room : Nat) → List Char → Option (List Json × List Char)
  | 0, _, _ => none
  | fuel + 1, room, cs =>
    match skipBlank cs with
    | ']' :: rest => some ([], rest)
    | ',' :: rest => do
      let (j, rest) ← value? fuel room rest
      let (js, rest) ← items? fuel room rest
      return (j :: js, rest)
    | _ => none
  termination_by structural fuel => fuel

/-- A key, a colon and a value. -/
def member? : (fuel room : Nat) → List Char → Option ((String × Json) × List Char)
  | 0, _, _ => none
  | fuel + 1, room, cs =>
    match skipBlank cs with
    | '"' :: rest => do
      let (key, rest) ← stringBody rest
      match skipBlank rest with
      | ':' :: rest =>
        let (j, rest) ← value? fuel room rest
        return ((key, j), rest)
      | _ => none
    | _ => none
  termination_by structural fuel => fuel

/-- The members after the first one, up to the closing brace. -/
def members? : (fuel room : Nat) → List Char → Option (List (String × Json) × List Char)
  | 0, _, _ => none
  | fuel + 1, room, cs =>
    match skipBlank cs with
    | '\x7d' :: rest => some ([], rest)
    | ',' :: rest => do
      let (m, rest) ← member? fuel room rest
      let (ms, rest) ← members? fuel room rest
      return (m :: ms, rest)
    | _ => none
  termination_by structural fuel => fuel

end

/-- The value that a text holds, unless it nests too deep.  Every step takes a character off the text, so
twice its length is enough fuel. -/
def parse (s : String) : Option Json := do
  let cs := s.toList
  let (j, rest) ← value? (2 * cs.length + 2) maxDepth cs
  if (skipBlank rest).isEmpty then some j else none

end SqlOutline.Json
