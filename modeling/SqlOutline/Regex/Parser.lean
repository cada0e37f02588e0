import SqlOutline.Regex.Basic

/-!
# Reading regular expressions

`Regex.parse` reads an expression: literals, character classes, groups with flags, alternatives,
anchors and repetitions.  There are no back references.  A repetition takes the item before it, and two
repetitions may not follow one another.
-/

namespace SqlOutline.Regex

/-- The flags that hold at a place of an expression. -/
structure Flags where
  /-- Letters match in any case. -/
  ignoreCase : Bool := false
  /-- The line anchors hold at every line. -/
  multiLine : Bool := false
  /-- The point also matches a line feed. -/
  dotAll : Bool := false

/-- A set under the given flags. -/
def Flags.apply (f : Flags) (s : CharSet) : CharSet := if f.ignoreCase then .fold s else s

/-- A set under the given flags, or what it leaves out. -/
def Flags.sign (f : Flags) (negated : Bool) (s : CharSet) : CharSet :=
  if negated then .compl (f.apply s) else f.apply s

/-! ### Sets with a name -/

/-- The ASCII letters. -/
def asciiLetters : CharSet := .union (.between 'A' 'Z') (.between 'a' 'z')

/-- The ASCII digits. -/
def asciiDigits : CharSet := .between '0' '9'

/-- The characters of words. -/
def wordSet : CharSet := .union (.union asciiLetters asciiDigits) (.single '_')

/-- The blanks. -/
def blankSet : CharSet := .ofList ['\t', '\n', '\x0c', '\r', ' ']

/-- The set of a backslash and a letter; a capital letter stands for what the set leaves out. -/
def letterSet? (flags : Flags) : Char → Option CharSet
  | 'd' => some (flags.apply asciiDigits)
  | 'D' => some (flags.sign true asciiDigits)
  | 'w' => some (flags.apply wordSet)
  | 'W' => some (flags.sign true wordSet)
  | 's' => some (flags.apply blankSet)
  | 'S' => some (flags.sign true blankSet)
  | _ => none

/-- The set of a name between colons. -/
def wordedSet? (name : String) : Option CharSet :=
  match name with
  | "alnum" => some (.union asciiLetters asciiDigits)
  | "alpha" => some asciiLetters
  | "ascii" => some (.range 0 0x7F)
  | "blank" => some (.ofList ['\t', ' '])
  | "cntrl" => some (.union (.range 0 0x1F) (.range 0x7F 0x7F))
  | "digit" => some asciiDigits
  | "graph" => some (.between '!' '~')
  | "lower" => some (.between 'a' 'z')
  | "print" => some (.between ' ' '~')
  | "punct" => some (.union (.union (.between '!' '/') (.between ':' '@'))
      (.union (.between '[' '\x60') (.between '\x7b' '~')))
  | "space" => some (.ofList ['\t', '\n', '\x0b', '\x0c', '\r', ' '])
  | "upper" => some (.between 'A' 'Z')
  | "word" => some wordSet
  | "xdigit" => some (.union asciiDigits (.union (.between 'A' 'F') (.between 'a' 'f')))
  | _ => none

/-- The set of a general category or of a script. -/
def propertySet? (name : String) : Option CharSet :=
  if name == "Any" then some .all
  else if Text.isCategoryName name then some (.category name)
  else if Text.isScriptName name then some (.script name)
  else none

/-! ### Escapes -/

/-- The value of a digit, at most a hexadecimal one. -/
def digitValue (c : Char) : Nat :=
  if c.isDigit then c.toNat - 48
  else if 'a' ≤ c ∧ c ≤ 'f' then c.toNat - 87
  else if 'A' ≤ c ∧ c ≤ 'F' then c.toNat - 55
  else 16

/-- The number that digits of a base write. -/
def number? (base : Nat) : List Char → Option Nat
  | [] => none
  | cs => cs.foldlM (fun n c => if digitValue c < base then some (n * base + digitValue c) else none) 0

/-- The number that hexadecimal digits write, at most the last code point. -/
def codePoint? (digits : List Char) : Option Nat := (number? 16 digits).filter (decide <| · ≤ 0x10FFFF)

/-- Whether a character is an octal digit. -/
def isOctal (c : Char) : Bool := decide ('0' ≤ c ∧ c ≤ '7')

/-- The code point of an escape, given by what comes after the backslash, and the rest. -/
def escapedPoint? : List Char → Option (Nat × List Char)
  | [] => none
  | 'x' :: '\x7b' :: rest => do
    let digits := rest.takeWhile (· != '\x7d')
    if digits.length == rest.length then failure
    return (← codePoint? digits, rest.drop (digits.length + 1))
  | 'x' :: a :: b :: rest => do return (← codePoint? [a, b], rest)
  | c :: rest =>
    if isOctal c then
      let digits := (rest.takeWhile isOctal).take 2
      if c ≠ '0' ∧ digits.isEmpty then none
      else (number? 8 (c :: digits)).map (·, rest.drop digits.length)
    else if c.toNat < 128 ∧ !c.isAlphanum then some (c.toNat, rest)
    else
      match c with
      | 'a' => some (7, rest)
      | 'f' => some (12, rest)
      | 'n' => some (10, rest)
      | 'r' => some (13, rest)
      | 't' => some (9, rest)
      | 'v' => some (11, rest)
      | _ => none

/-- A category or script after its letter, and the rest. -/
def property? (flags : Flags) (negated : Bool) : List Char → Option (CharSet × List Char)
  | '\x7b' :: '^' :: rest => close (!negated) rest
  | '\x7b' :: rest => close negated rest
  | c :: rest => do return (flags.sign negated (← propertySet? (String.singleton c)), rest)
  | [] => none
where
  close (negated : Bool) (rest : List Char) : Option (CharSet × List Char) := do
    let name := rest.takeWhile (· != '\x7d')
    if name.length == rest.length then failure
    return (flags.sign negated (← propertySet? (String.ofList name)), rest.drop (name.length + 1))

/-! ### Character classes -/

/-- One code point of a class, and the rest. -/
def classPoint? : List Char → Option (Nat × List Char)
  | '\\' :: rest => escapedPoint? rest
  | c :: rest => some (c.toNat, rest)
  | [] => none

/-- Splits before the first colon that a closing bracket follows; nothing when there is none. -/
def untilColonBracket? : List Char → Option (List Char × List Char)
  | [] => none
  | ':' :: ']' :: rest => some ([], rest)
  | c :: rest => (untilColonBracket? rest).map fun (name, after) => (c :: name, after)

/-- A set with a name inside a class, and the rest.  The inner value is empty when no name stands here, the outer
one when the name is unknown. -/
def namedSet? (flags : Flags) : List Char → Option (Option (CharSet × List Char))
  | '[' :: ':' :: rest =>
    match untilColonBracket? rest with
    | some ('^' :: name, after) => (wordedSet? (String.ofList name)).map fun s => some (flags.sign true s, after)
    | some (name, after) => (wordedSet? (String.ofList name)).map fun s => some (flags.apply s, after)
    | none => some none
  | '\\' :: 'p' :: rest => (property? flags false rest).map some
  | '\\' :: 'P' :: rest => (property? flags true rest).map some
  | '\\' :: c :: rest => some ((letterSet? flags c).map fun s => (s, rest))
  | _ => some none

/-- The items of a class up to its closing bracket. -/
def classItems? (flags : Flags) : (fuel : Nat) → (first : Bool) → List Char → Option (CharSet × List Char)
  | 0, _, _ => none
  | fuel + 1, first, cs =>
    match cs with
    | [] => none
    | c :: rest =>
      if c = ']' ∧ !first then some (.empty, rest)
      else do
        match ← namedSet? flags cs with
        | some (set, rest) =>
          let (more, rest) ← classItems? flags fuel false rest
          return (.union set more, rest)
        | none =>
          let (low, rest) ← classPoint? cs
          let (high, rest) ←
            match rest with
            | '-' :: ']' :: _ => some (low, rest)
            | '-' :: after => classPoint? after
            | _ => some (low, rest)
          if high < low then none
          else
            let (more, rest) ← classItems? flags fuel false rest
            return (.union (flags.apply (.range low high)) more, rest)

/-- A class after its opening bracket, and the rest. -/
def class? (flags : Flags) (cs : List Char) : Option (Regex × List Char) :=
  match cs with
  | '^' :: rest => (classItems? flags (rest.length + 1) true rest).map fun (s, rest) => (one (.compl s), rest)
  | _ => (classItems? flags (cs.length + 1) true cs).map fun (s, rest) => (one s, rest)

/-! ### Repetitions -/

/-- A count at the front, without leading zeros, and the rest. -/
def count? (cs : List Char) : Option (Nat × List Char) :=
  let digits := cs.takeWhile Char.isDigit
  if 2 ≤ digits.length ∧ digits.head? = some '0' then none
  else (number? 10 digits).map (·, cs.drop digits.length)

/-- The bounds between braces, and the rest; nothing when the braces are ordinary characters. -/
def bounds? (cs : List Char) : Option (Nat × Option Nat × List Char) := do
  let (least, rest) ← count? cs
  match rest with
  | '\x7d' :: rest => return (least, some least, rest)
  | ',' :: '\x7d' :: rest => return (least, none, rest)
  | ',' :: rest =>
    let (most, rest) ← count? rest
    match rest with
    | '\x7d' :: rest => return (least, some most, rest)
    | _ => none
  | _ => none

/-- A repetition: its bounds, and whether braces write them. -/
structure Bounds where
  least : Nat
  most : Option Nat
  braces : Bool := false

/-- The repetition at the front, and the rest.  A question mark after it only says which match comes first. -/
def repeatAt? (cs : List Char) : Option (Bounds × List Char) :=
  match cs with
  | '*' :: rest => some (⟨0, none, false⟩, lazy rest)
  | '+' :: rest => some (⟨1, none, false⟩, lazy rest)
  | '?' :: rest => some (⟨0, some 1, false⟩, lazy rest)
  | '\x7b' :: rest => (bounds? rest).map fun (least, most, rest) => (⟨least, most, true⟩, lazy rest)
  | _ => none
where
  lazy : List Char → List Char
    | '?' :: rest => rest
    | rest => rest

/-- The most copies of an item that repetitions may ask for. -/
def repeatLimit : Nat := 1000

/-- An item under a repetition, unless the bounds are out of order or ask for too many copies. -/
def Bounds.repeat? (b : Bounds) (item : Regex) : Option Regex :=
  let r := many item b.least b.most
  let ordered := b.most.all fun most => decide (b.least ≤ most)
  let counted := b.braces && (decide (2 ≤ b.least) || b.most.any fun most => decide (2 ≤ most))
  if !ordered || decide (repeatLimit < b.least) || b.most.any (fun most => decide (repeatLimit < most)) then none
  else if counted && !r.fits repeatLimit then none
  else some r

/-! ### Expressions -/

/-- Reads flags up to the mark that ends them: the flags, and whether a group follows.  At least one flag comes
after the sign that turns flags off. -/
def flags? : (on wanting : Bool) → Flags → List Char → Option (Flags × Bool × List Char)
  | _, _, _, [] => none
  | on, wanting, f, c :: rest =>
    match c with
    | 'i' => flags? on false { f with ignoreCase := on } rest
    | 'm' => flags? on false { f with multiLine := on } rest
    | 's' => flags? on false { f with dotAll := on } rest
    | 'U' => flags? on false f rest
    | '-' => if on then flags? false true f rest else none
    | ':' => if wanting then none else some (f, true, rest)
    | ')' => if wanting then none else some (f, false, rest)
    | _ => none

/-- What comes after a group name and its closing angle bracket. -/
def groupName? (cs : List Char) : Option (List Char) :=
  let name := cs.takeWhile isWordChar
  match cs.drop name.length with
  | '>' :: rest => if name.isEmpty then none else some rest
  | _ => none

/-- How a group opens. -/
inductive Opening where
  /-- A group with the flags inside it. -/
  | group (inside : Flags) (rest : List Char)
  /-- New flags for what follows. -/
  | flags (after : Flags) (rest : List Char)

/-- The opening of a group after its bracket. -/
def opening? (flags : Flags) : List Char → Option Opening
  | '?' :: 'P' :: '<' :: rest => (groupName? rest).map (.group flags)
  | '?' :: '<' :: rest => (groupName? rest).map (.group flags)
  | '?' :: rest => (flags? true false flags rest).map fun (f, opens, rest) =>
      if opens then .group f rest else .flags f rest
  | rest => some (.group flags rest)

/-- The literal character at a code point. -/
def literal (flags : Flags) (n : Nat) : Regex := one (flags.apply (.range n n))

/-- Splits at the end of a quotation. -/
def quotation : List Char → List Char × List Char
  | [] => ([], [])
  | '\\' :: 'E' :: rest => ([], rest)
  | c :: rest =>
    let (text, rest) := quotation rest
    (c :: text, rest)

/-- An item after a backslash, and the rest. -/
def escapedItem? (flags : Flags) (cs : List Char) : Option (Regex × List Char) :=
  match cs with
  | 'A' :: rest => some (anchor .textStart, rest)
  | 'z' :: rest => some (anchor .textEnd, rest)
  | 'b' :: rest => some (anchor .wordBoundary, rest)
  | 'B' :: rest => some (anchor .noWordBoundary, rest)
  | 'p' :: rest => (property? flags false rest).map fun (s, rest) => (one s, rest)
  | 'P' :: rest => (property? flags true rest).map fun (s, rest) => (one s, rest)
  | c :: rest =>
    match letterSet? flags c with
    | some s => some (one s, rest)
    | none => (escapedPoint? cs).map fun (n, rest) => (literal flags n, rest)
  | [] => none

/-- The item that a character without a group writes, and the rest. -/
def item? (flags : Flags) : List Char → Option (Regex × List Char)
  | [] => none
  | '[' :: rest => class? flags rest
  | '.' :: rest => some (one (if flags.dotAll then .all else .compl (.single '\n')), rest)
  | '^' :: rest => some (anchor (if flags.multiLine then .lineStart else .textStart), rest)
  | '$' :: rest => some (anchor (if flags.multiLine then .lineEnd else .textEnd), rest)
  | '\\' :: rest => escapedItem? flags rest
  | c :: rest => some (literal flags c.toNat, rest)

/-- What has been read of a group. -/
structure Progress where
  /-- The finished alternatives, the last first. -/
  done : List Regex := []
  /-- The items of the alternative being read, the last first. -/
  items : List Regex := []
  /-- Whether a repetition was read last. -/
  repeated : Bool := false

/-- Adds items to the alternative being read. -/
def Progress.push (p : Progress) (items : List Regex) : Progress :=
  { p with items := items.reverse ++ p.items, repeated := false }

/-- The alternative being read. -/
def Progress.alternative (p : Progress) : Regex := p.items.foldl (fun r item => seq item r) nothing

/-- Ends the alternative being read. -/
def Progress.bar (p : Progress) : Progress := { done := p.alternative :: p.done }

/-- All that has been read, as one expression. -/
def Progress.whole (p : Progress) : Regex := p.done.foldl (fun r a => alt a r) p.alternative

/-- Puts the last item under a repetition. -/
def Progress.repeat? (p : Progress) (b : Bounds) : Option Progress :=
  match p.items with
  | item :: before =>
    if p.repeated then none else (b.repeat? item).map fun r => { p with items := r :: before, repeated := true }
  | [] => none

/-- The expression up to the end of a group or of the text, and the rest. -/
def alternatives? : (fuel : Nat) → Flags → Progress → List Char → Option (Regex × List Char)
  | 0, _, _, _ => none
  | fuel + 1, flags, p, cs =>
    match cs with
    | [] => some (p.whole, [])
    | ')' :: _ => some (p.whole, cs)
    | '|' :: rest => alternatives? fuel flags p.bar rest
    | '(' :: rest => do
      match ← opening? flags rest with
      | .flags after rest => alternatives? fuel after { p with repeated := false } rest
      | .group inside rest =>
        match ← alternatives? fuel inside {} rest with
        | (inner, ')' :: rest) => alternatives? fuel flags (p.push [inner]) rest
        | _ => none
    | '\\' :: 'Q' :: rest =>
      let (text, rest) := quotation rest
      alternatives? fuel flags (p.push (text.map fun c => literal flags c.toNat)) rest
    | _ =>
      match repeatAt? cs with
      | some (b, rest) => (p.repeat? b).bind fun p => alternatives? fuel flags p rest
      | none => (item? flags cs).bind fun (item, rest) => alternatives? fuel flags (p.push [item]) rest

/-- The expression that a text writes. -/
def parse (s : String) : Option Regex := do
  let cs := s.toList
  let (r, rest) ← alternatives? (cs.length + 1) {} {} cs
  if rest.isEmpty then some r else none

end SqlOutline.Regex
