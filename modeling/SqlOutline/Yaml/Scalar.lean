import SqlOutline.Yaml.Numeral

/-!
# Plain YAML scalars

What a plain scalar stands for decides whether a text needs quotes and how it is read back.

* `Yaml.isNullWord`, `Yaml.readBool?`, `Yaml.readSpecial?` : the words for nothing, for truth values and for
  numbers that are not finite;
* `Yaml.Scalar`, `Yaml.Scalar.ofPlain` : what a plain scalar stands for, and its text;
* `Yaml.isTimestamp` : dates, dates with a time, and hours with minutes.
-/

namespace SqlOutline.Yaml

/-- The words that stand for nothing. -/
def isNullWord (s : String) : Bool := ["null", "Null", "NULL", "~"].contains s

/-- The truth value of a word. -/
def readBool? (s : String) : Option Bool :=
  if ["true", "True", "TRUE"].contains s then some true
  else if ["false", "False", "FALSE"].contains s then some false
  else none

/-- Words that older dialects take for truth values. -/
def looseBools : List String :=
  ["y", "Y", "yes", "Yes", "YES", "n", "N", "no", "No", "NO", "on", "On", "ON", "off", "Off", "OFF"]

/-- The infinite number or the missing number that a word stands for. -/
def readSpecial? (s : String) : Option Float :=
  if [".inf", ".Inf", ".INF"].contains s then some (1.0 / 0.0)
  else if ["-.inf", "-.Inf", "-.INF"].contains s then some (-1.0 / 0.0)
  else if [".nan", ".NaN", ".NAN"].contains s then some (0.0 / 0.0)
  else none

/-- What a scalar stands for. -/
inductive Scalar where
  /-- Nothing. -/
  | null
  /-- A truth value. -/
  | bool (b : Bool)
  /-- A whole number. -/
  | int (n : Int)
  /-- A number with a point. -/
  | float (x : Float)
  /-- A text. -/
  | text (s : String)

namespace Scalar

/-- What a scalar without quotes stands for. -/
def ofPlain (s : String) : Scalar :=
  if isNullWord s then null
  else
    match readBool? s with
    | some b => bool b
    | none =>
      match readSpecial? s with
      | some x => float x
      | none =>
        match Numeral.ofText? s with
        | some (.int n) => int n
        | some (.float x) => float x
        | _ => text s

/-- Whether a scalar is a text. -/
def isText : Scalar → Bool
  | text _ => true
  | _ => false

/-- The text of a scalar: numbers are written in their shortest decimal form. -/
def toText : Scalar → String
  | null => ""
  | bool b => if b then "true" else "false"
  | int n => toString n
  | float x => Double.render x
  | text s => s

end Scalar

/-! ### Dates and times -/

/-- A number of one or two digits and the rest; with `fixed`, of two. -/
def pair? (fixed : Bool) : List Char → Option (Nat × List Char)
  | [] => none
  | [c] => if c.isDigit && !fixed then some (c.toNat - 48, []) else none
  | c :: d :: rest =>
    if !c.isDigit then none
    else if d.isDigit then some ((c.toNat - 48) * 10 + (d.toNat - 48), rest)
    else if fixed then none else some (c.toNat - 48, d :: rest)

/-- Takes a fixed character off the front. -/
def skip? (expected : Char) : List Char → Option (List Char)
  | c :: cs => if c = expected then some cs else none
  | [] => none

/-- The number of days of a month. -/
def daysIn (year month : Nat) : Nat :=
  if month == 2 then
    if year % 4 == 0 && (year % 100 != 0 || year % 400 == 0) then 29 else 28
  else if [4, 6, 9, 11].contains month then 30 else 31

/-- A valid date at the front, and the rest. -/
def date? (cs : List Char) : Option (List Char) := do
  let year ← readDigits? 10 (cs.take 4)
  if cs.length < 4 || !(cs.take 4).all Char.isDigit then none
  else
    let cs ← skip? '-' (cs.drop 4)
    let (month, cs) ← pair? true cs
    let cs ← skip? '-' cs
    let (day, cs) ← pair? true cs
    if 1 ≤ month ∧ month ≤ 12 ∧ 1 ≤ day ∧ day ≤ daysIn year month then some cs else none

/-- A valid time of day at the front, and the rest. -/
def time? (cs : List Char) : Option (List Char) := do
  let (hour, cs) ← pair? false cs
  let cs ← skip? ':' cs
  let (minute, cs) ← pair? true cs
  let cs ← skip? ':' cs
  let (second, cs) ← pair? true cs
  if hour < 24 ∧ minute < 60 ∧ second < 60 then
    match cs with
    | p :: d :: rest =>
      if (p == '.' || p == ',') && d.isDigit then some (rest.dropWhile Char.isDigit) else some cs
    | _ => some cs
  else none

/-- Whether a list is a distance from universal time. -/
def isZone : List Char → Bool
  | ['Z'] => true
  | sign :: rest =>
    (sign == '+' || sign == '-') &&
      match pair? true rest with
      | some (hour, ':' :: rest) =>
        match pair? true rest with
        | some (minute, []) => decide (hour ≤ 24) && decide (minute ≤ 60)
        | _ => false
      | _ => false
  | [] => false

/-- Whether a text is an hour and a minute. -/
def isClock (cs : List Char) : Bool :=
  match pair? false cs with
  | some (hour, ':' :: rest) =>
    match pair? false rest with
    | some (minute, []) => decide (hour < 24) && decide (minute < 60)
    | _ => false
  | _ => false

/-- Whether a text is a date, a date with a time, or an hour with a minute. -/
def isTimestamp (s : String) : Bool :=
  let cs := s.toList
  isClock cs ||
    match date? cs with
    | none => false
    | some [] => true
    | some (c :: rest) =>
      if c == ' ' then time? (rest.dropWhile (· == ' ')) == some []
      else if c == 'T' || c == 't' then ((time? rest).map isZone).getD false
      else false

end SqlOutline.Yaml
