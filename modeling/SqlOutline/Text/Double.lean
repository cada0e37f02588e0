/-!
# Double precision numbers as text

* `Double.shortest` : the shortest decimal digits that read back as a number, and where the point stands;
* `Double.render` : the text of a number.  Positional notation is used for decimal exponents from -4 to 5;
* `Double.read?`, `Double.parse?` : read a number, in decimal or hexadecimal notation.
-/

namespace SqlOutline.Double

/-! ### Shortest digits -/

/-- A finite positive number as `mantissa * 2 ^ exponent`, and whether its lower neighbour is nearer. -/
structure Parts where
  /-- The mantissa. -/
  mantissa : Nat
  /-- The binary exponent. -/
  exponent : Int
  /-- Whether the mantissa is the least one of its exponent. -/
  narrow : Bool

/-- The parts of a finite positive number, from its bit pattern. -/
def parts (x : Float) : Parts :=
  let bits := x.toBits.toNat % Nat.pow 2 63
  let fraction := bits % Nat.pow 2 52
  let biased := bits / Nat.pow 2 52
  if biased == 0 then ⟨fraction, -1074, false⟩
  else ⟨Nat.pow 2 52 + fraction, Int.ofNat biased - 1075, fraction == 0 && decide (1 < biased)⟩

/-- `n * 2 ^ e` as a fraction. -/
def scale (n : Nat) (e : Int) : Nat × Nat :=
  if e ≥ 0 then (n * Nat.pow 2 e.toNat, 1) else (n, Nat.pow 2 (-e).toNat)

/-- Compares `a * 10 ^ k` with a fraction. -/
def atMost (a : Nat) (k : Int) (q : Nat × Nat) : Bool :=
  if k ≥ 0 then decide (a * Nat.pow 10 k.toNat * q.2 ≤ q.1)
  else decide (a * q.2 ≤ q.1 * Nat.pow 10 (-k).toNat)

/-- The whole part of a fraction divided by `10 ^ k`. -/
def quotient (q : Nat × Nat) (k : Int) : Nat :=
  if k ≥ 0 then q.1 / (q.2 * Nat.pow 10 k.toNat) else q.1 * Nat.pow 10 (-k).toNat / q.2

/-- The least power of ten above a fraction, searched downward from a bound. -/
def pointOf (q : Nat × Nat) : (fuel : Nat) → Int → Int
  | 0, p => p
  | fuel + 1, p => if atMost 1 (p - 1) q then p else pointOf q fuel (p - 1)

/-- The shortest digits of a finite positive number, as a number and the power of ten of its last digit.
Of several decimals of that length the nearest is taken. -/
def digitsFrom (p : Parts) (point : Int) : (fuel : Nat) → (count : Nat) → Nat × Int
  | 0, count => (quotient (scale p.mantissa p.exponent) (point - count), point - count)
  | fuel + 1, count =>
    let k := point - count
    let value := scale (4 * p.mantissa) (p.exponent - 2)
    let low := scale (4 * p.mantissa - if p.narrow then 1 else 2) (p.exponent - 2)
    let high := scale (4 * p.mantissa + 2) (p.exponent - 2)
    let even := p.mantissa % 2 == 0
    let inside := fun (a : Nat) =>
      (!atMost a k low && atMost a k high && !isEqual a k high)
        || (even && (isEqual a k low || isEqual a k high))
    let below := quotient value k
    let above := below + 1
    let nearerBelow := atMost (2 * below + 1) k (2 * value.1, value.2) == false
    match inside below, inside above with
    | true, true => if nearerBelow then (below, k) else (above, k)
    | true, false => (below, k)
    | false, true => (above, k)
    | false, false => digitsFrom p point fuel (count + 1)
where
  isEqual (a : Nat) (k : Int) (q : Nat × Nat) : Bool :=
    if k ≥ 0 then a * Nat.pow 10 k.toNat * q.2 == q.1 else a * q.2 == q.1 * Nat.pow 10 (-k).toNat

/-- The shortest digits of a finite positive number without zeros at their end, and the place of the point
counted from the first digit. -/
def shortest (x : Float) : List Char × Int :=
  let p := parts x
  let point := pointOf (scale p.mantissa p.exponent) 700 310
  let (n, k) := digitsFrom p point 17 1
  let digits := Nat.toDigits 10 n
  let place := Int.ofNat digits.length + k
  let trimmed := (digits.reverse.dropWhile (· == '0')).reverse
  (trimmed, place)

/-! ### Text -/

/-- An exponent with its sign and at least two digits. -/
def exponentText (e : Int) : List Char :=
  let digits := Nat.toDigits 10 e.natAbs
  (if e < 0 then '-' else '+') :: (if digits.length < 2 then '0' :: digits else digits)

/-- The text of the digits of a positive number. -/
def layout (digits : List Char) (place : Int) : List Char :=
  let e := place - 1
  if e < -4 ∨ e ≥ 6 then
    match digits with
    | [] => ['0']
    | [d] => d :: 'e' :: exponentText e
    | d :: ds => d :: '.' :: (ds ++ 'e' :: exponentText e)
  else if place ≤ 0 then '0' :: '.' :: (List.replicate (-place).toNat '0' ++ digits)
  else if digits.length ≤ place.toNat then digits ++ List.replicate (place.toNat - digits.length) '0'
  else digits.take place.toNat ++ '.' :: digits.drop place.toNat

/-- The text of a number. -/
def render (x : Float) : String :=
  if x.isNaN then "NaN"
  else
    let negative := decide (x.toBits.toNat ≥ Nat.pow 2 63)
    if x.isInf then if negative then "-Inf" else "+Inf"
    else
      let body :=
        if x == 0 then ['0']
        else
          let (digits, place) := shortest x
          layout digits place
      String.ofList (if negative then '-' :: body else body)

/-! ### Reading -/

/-- The number that digits, a fraction and a decimal exponent write. -/
def ofDecimal (digits fraction : List Char) (exponent : Int) : Float :=
  let n := (digits ++ fraction).foldl (fun n c => n * 10 + (c.toNat - 48)) 0
  let e := exponent - fraction.length
  if n == 0 then 0
  else if e < -5000 then 0
  else if e < 0 then Float.ofScientific n true (-e).toNat
  else if e > 5000 then 1.0 / 0.0
  else Float.ofScientific n false e.toNat

/-- The number nearest to `n * 2 ^ e`; of two that are equally near, the even one. -/
def ofBinary (n : Nat) (e : Int) : Float :=
  let length := n.log2 + 1
  let top := e + length
  if n == 0 || top < -1080 then 0
  else if top > 1100 then 1.0 / 0.0
  else
    let precision := min 53 (top + 1074).toNat
    let excess := length - precision
    if excess == 0 then (Float.ofNat n).scaleB e
    else
      let unit := Nat.pow 2 excess
      let q := n / unit
      let r := 2 * (n % unit)
      let rounded := if r > unit || (r == unit && q % 2 == 1) then q + 1 else q
      (Float.ofNat rounded).scaleB (e + excess)

/-- Whether every underscore stands between digits.  `last` stands for the character before: a digit, an
underscore or anything else. -/
def underscoresFit (isDigit : Char → Bool) : (last : Char) → List Char → Bool
  | last, [] => last != '_'
  | last, c :: cs =>
    if isDigit c then underscoresFit isDigit '0' cs
    else if c == '_' then last == '0' && underscoresFit isDigit '_' cs
    else last != '_' && underscoresFit isDigit '.' cs

/-- Whether a character is a hexadecimal digit. -/
def isHexDigit (c : Char) : Bool :=
  c.isDigit || decide ('a' ≤ c ∧ c ≤ 'f') || decide ('A' ≤ c ∧ c ≤ 'F')

/-- The value of a hexadecimal digit. -/
def hexValue (c : Char) : Nat :=
  if c.isDigit then c.toNat - 48 else if 'a' ≤ c then c.toNat - 87 else c.toNat - 55

/-- The exponent after its mark: a sign and digits. -/
def exponent? : List Char → Option Int
  | '+' :: ds => value? ds
  | '-' :: ds => (value? ds).map (-·)
  | ds => value? ds
where
  value? (ds : List Char) : Option Int :=
    if (ds.head?.any Char.isDigit) && ds.all (fun c => c.isDigit || c == '_') then
      some (ds.foldl (fun n c =>
        if c == '_' || n ≥ 10000 then n else n * 10 + Int.ofNat (c.toNat - 48)) 0)
    else none

/-- What a text reads as. -/
inductive Reading where
  /-- A number. -/
  | number (x : Float)
  /-- The notation of a number that is larger than every finite one. -/
  | outOfRange

/-- A number without a sign: digits with at most one point among them, and an exponent.  The exponent of
hexadecimal digits is a power of two and must be given. -/
def readUnsigned? (cs : List Char) : Option Reading := do
  let hex :=
    match cs with
    | '0' :: x :: _ :: _ => x == 'x' || x == 'X'
    | _ => false
  let isDigit := if hex then isHexDigit else Char.isDigit
  let isMark := fun c => if hex then c == 'p' || c == 'P' else c == 'e' || c == 'E'
  let body := if hex then cs.drop 2 else cs
  let inMantissa := fun c => isDigit c || c == '_' || c == '.'
  let mantissa := body.takeWhile inMantissa
  let exponent ←
    match body.dropWhile inMantissa with
    | [] => if hex then none else some 0
    | m :: ds => if isMark m then exponent? ds else none
  let whole := (mantissa.takeWhile (· != '.')).filter isDigit
  let fraction := (mantissa.dropWhile (· != '.')).filter isDigit
  if mantissa.count '.' > 1 || (whole ++ fraction).isEmpty then none
  else if body.contains '_' && !underscoresFit isDigit (if hex then '0' else '.') body then none
  else
    let x :=
      if hex then
        ofBinary ((whole ++ fraction).foldl (fun n c => n * 16 + hexValue c) 0) (exponent - 4 * fraction.length)
      else ofDecimal whole fraction exponent
    some (if x.isInf then .outOfRange else .number x)

/-- Reads a number with an optional sign; the words for infinity and for no number are read too, the latter
without a sign. -/
def read? (cs : List Char) : Option Reading :=
  let (negative, body) :=
    match cs with
    | '+' :: cs => (false, cs)
    | '-' :: cs => (true, cs)
    | cs => (false, cs)
  let word := body.map Char.toLower
  let value :=
    if word == "inf".toList || word == "infinity".toList then some (.number (1.0 / 0.0))
    else if word == "nan".toList then
      if body.length == cs.length then some (.number (0.0 / 0.0)) else none
    else readUnsigned? body
  value.map fun
    | .number x => .number (if negative then -x else x)
    | .outOfRange => .outOfRange

/-- The number that a text writes, if it is in range. -/
def parse? (s : String) : Option Float :=
  match read? s.toList with
  | some (.number x) => some x
  | _ => none

end SqlOutline.Double
