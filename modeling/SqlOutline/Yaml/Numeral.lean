import SqlOutline.Text.Double

/-!
# Numbers in YAML

* `Yaml.Numeral` : what the notation of a number stands for;
* `Yaml.Numeral.read?` : reads a number.  An underscore may stand among the digits, a leading zero or letter
  gives the base, and only numbers with a point may have an exponent;
* `Yaml.Numeral.ofText?` : the same, where a number that is too large is none.
-/

namespace SqlOutline.Yaml

/-- The least whole number of 64 bits with a sign. -/
def minInt : Int := Int64.minValue.toInt

/-- The largest whole number of 64 bits with a sign. -/
def maxInt : Int := Int64.maxValue.toInt

/-- The largest whole number of 64 bits without a sign. -/
def maxNat : Nat := UInt64.size - 1

/-- The number that digits of a base write, at least one of them. -/
def readDigits? (base : Nat) : List Char → Option Nat
  | [] => none
  | cs => cs.foldlM (fun n c =>
      let value := if Double.isHexDigit c then Double.hexValue c else base
      if value < base then some (n * base + value) else none) 0

/-- What the notation of a number stands for. -/
inductive Numeral where
  /-- A whole number. -/
  | int (n : Int)
  /-- A number with a point. -/
  | float (x : Float)
  /-- A number that is too large. -/
  | outOfRange

namespace Numeral

/-- A whole number of 64 bits; without a minus sign it may use all of them. -/
def readInt? (negative : Bool) (base : Nat) (digits : List Char) : Option Numeral :=
  (readDigits? base digits).map fun n =>
    if negative then if minInt ≤ -(Int.ofNat n) then int (-(Int.ofNat n)) else outOfRange
    else if n ≤ maxNat then int n
    else outOfRange

/-- A number with a point. -/
def readFloat? (cs : List Char) : Option Numeral :=
  (Double.read? cs).map fun
    | .number x => float x
    | .outOfRange => outOfRange

/-- Reads a number.  A plus and then a minus sign before the number are dropped; the minus counts if it is the
very first character. -/
def read? (cs : List Char) : Option Numeral :=
  let points := cs.count '.'
  if cs.isEmpty || cs.head? == some '_' || points > 1 then none
  else
    let unsigned := if cs.head? == some '+' then cs.drop 1 else cs
    let unsigned := if unsigned.head? == some '-' then unsigned.drop 1 else unsigned
    let digits := unsigned.filter (· != '_')
    let negative := cs.head? == some '-'
    match digits with
    | '0' :: 'x' :: ds => readInt? negative 16 ds
    | '0' :: 'o' :: ds => readInt? negative 8 ds
    | '0' :: 'b' :: ds => readInt? negative 2 ds
    | _ =>
      if points == 1 then readFloat? (if negative then '-' :: digits else digits)
      else if digits.head? == some '0' && digits.length > 1 then readInt? negative 8 digits
      else readInt? negative 10 digits

/-- The number that a text writes, if it is in range. -/
def ofText? (s : String) : Option Numeral :=
  match read? s.toList with
  | some outOfRange => none
  | other => other

end Numeral

/-- Whether a text is the notation of a number, however large. -/
def isNumeral (s : String) : Bool := (Numeral.read? s.toList).isSome

end SqlOutline.Yaml
