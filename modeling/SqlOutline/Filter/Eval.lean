import SqlOutline.Text.Double
import SqlOutline.Filter.Typing
import SqlOutline.Regex.Parser

/-!
# Values of filter expressions

* `Filter.Value` : the values;
* `Filter.EvalError` : why an expression has no value;
* `Filter.eval` : the value of an expression.  `&&` and `||` have a value whenever one side decides it, even
  if the other one fails.
-/

namespace SqlOutline.Filter

/-- A value. -/
inductive Value where
  | null
  | bool (value : Bool)
  | int (value : Int)
  | uint (value : Nat)
  | double (value : Float)
  | string (value : String)
  | bytes (value : List UInt8)
  /-- A list, and whether it has been put together from two lists. -/
  | list (items : List Value) (joined : Bool)
  /-- A map, given by its keys and the value of each. -/
  | map (keys values : List Value)
  /-- A type, given by its name. -/
  | type (name : String)
deriving Repr

/-- Why an expression has no value. -/
inductive EvalError where
  /-- A whole number leaves the 64 bit range. -/
  | overflow
  | divisionByZero
  /-- A text or number cannot be converted. -/
  | badConversion
  /-- A list has no item of that number. -/
  | outOfRange
  /-- A map has no such key. -/
  | noKey
  /-- A value cannot be the key of a map. -/
  | badKey
  /-- A text is no regular expression. -/
  | badPattern
  /-- An operation does not apply to the values. -/
  | wrongType
  /-- A name has no value. -/
  | unknownName
deriving DecidableEq, Repr

/-- The result of an evaluation. -/
abbrev Outcome := Except EvalError Value

/-- The name of the type of a value, as messages give it. -/
def Value.typeName : Value → String
  | null => "structpb.NullValue"
  | bool _ => "bool"
  | int _ => "int64"
  | uint _ => "uint64"
  | double _ => "float64"
  | string _ => "string"
  | bytes _ => "[]uint8"
  | list _ joined => if joined then "[]interface \x7b\x7d" else "[]ref.Val"
  | map _ _ => "map[ref.Val]ref.Val"
  | type _ => "string"

/-- The name of the type of a value, as expressions give it. -/
def Value.typeWord : Value → String
  | null => "null_type"
  | bool _ => "bool"
  | int _ => "int"
  | uint _ => "uint"
  | double _ => "double"
  | string _ => "string"
  | bytes _ => "bytes"
  | list _ _ => "list"
  | map _ _ => "map"
  | type _ => "type"

/-- The value of a constant. -/
def Literal.value : Literal → Value
  | null => .null
  | bool b => .bool b
  | int n => .int n
  | uint n => .uint n
  | double x => .double x
  | string s => .string s
  | bytes b => .bytes b

/-! ### Numbers -/

/-- A whole number within 64 bits. -/
def checked (n : Int) : Outcome :=
  if Int64.minValue.toInt ≤ n ∧ n ≤ Int64.maxValue.toInt then .ok (.int n) else .error .overflow

/-- A whole number without a sign within 64 bits. -/
def checkedUint (n : Int) : Outcome :=
  if 0 ≤ n ∧ n < UInt64.size then .ok (.uint n.toNat) else .error .overflow

/-- A whole number as a double precision number. -/
def toFloat (n : Int) : Float := Float.ofInt n

/-- The whole part of a double precision number. -/
def truncate? (x : Float) : Option Int :=
  if x.isNaN || x.isInf then none
  else
    let p := Double.parts x
    let (n, d) := Double.scale p.mantissa p.exponent
    some (if x < 0 then -(Int.ofNat (n / d)) else Int.ofNat (n / d))

/-- The number that a value is, if it is a whole number of any kind. -/
def Value.whole? : Value → Option Int
  | .int n => some n
  | .uint n => some n
  | .double x => (truncate? x).filter fun n => toFloat n == x
  | _ => none

/-! ### Equality -/

/-- Whether two values are the same key of a map. -/
def Value.isKey : Value → Value → Bool
  | .null, .null => true
  | .bool a, .bool b => a == b
  | .int a, .int b => a == b
  | .uint a, .uint b => a == b
  | .double a, .double b => a == b
  | .string a, .string b => a == b
  | .type a, .type b => a == b
  | _, _ => false

/-- The value of a key, among keys and their values. -/
def lookupKey (key : Value → Bool) : List Value → List Value → Option Value
  | k :: ks, v :: vs => if key k then some v else lookupKey key ks vs
  | _, _ => none

/-- The value of a key in a map.  A whole number is also found as a number of another kind. -/
def findKey? (key : Value) (keys values : List Value) : Option Value :=
  (lookupKey (·.isKey key) keys values).or
    (key.whole?.bind fun n =>
      lookupKey (fun k =>
        match key, k with
        | .double _, .int m => m == n
        | .double _, .uint m => Int.ofNat m == n
        | .int _, .uint m => Int.ofNat m == n
        | .uint _, .int m => m == n
        | _, _ => false) keys values)

mutual

/-- Whether two values are equal; numbers of different kinds are compared as numbers. -/
def Value.same : Value → Value → Bool
  | .null, .null => true
  | .bool a, .bool b => a == b
  | .int a, .int b => a == b
  | .uint a, .uint b => a == b
  | .double a, .double b => a == b
  | .int a, .uint b => a == Int.ofNat b
  | .uint a, .int b => Int.ofNat a == b
  | .int a, .double b => toFloat a == b
  | .double a, .int b => a == toFloat b
  | .uint a, .double b => toFloat a == b
  | .double a, .uint b => a == toFloat b
  | .string a, .string b => a == b
  | .bytes a, .bytes b => a == b
  | .type a, .type b => a == b
  | .list a _, .list b _ => sameAll a b
  | .map ks vs, .map ls ws => ks.length == ls.length && sameEntries vs ks ls ws
  | _, _ => false

/-- Whether two lists of values are equal. -/
def Value.sameAll : List Value → List Value → Bool
  | [], [] => true
  | a :: as, b :: bs => a.same b && sameAll as bs
  | _, _ => false

/-- Whether a map has equal values under the given keys. -/
def Value.sameEntries : (values keys : List Value) → (otherKeys otherValues : List Value) → Bool
  | v :: vs, k :: ks, ls, ws => (findKey? k ls ws).any (fun w => v.same w) && sameEntries vs ks ls ws
  | _, _, _, _ => true

end

/-- A map with another entry; the value of a key that is there already is replaced. -/
def addEntry (entries : List (Value × Value)) (key value : Value) : List (Value × Value) :=
  if entries.any (·.1.isKey key) then entries.map fun e => if e.1.isKey key then (key, value) else e
  else entries ++ [(key, value)]

/-- The map of keys and values.  Bytes cannot be keys. -/
def makeMap (keys values : List Value) : Outcome :=
  let isBytes := fun
    | Value.bytes _ => true
    | _ => false
  if keys.any isBytes then .error .badKey
  else
    let entries := (keys.zip values).foldl (fun found e => addEntry found e.1 e.2) []
    .ok (.map (entries.map (·.1)) (entries.map (·.2)))

/-! ### Operators -/

/-- Whether one text comes before another in the order of code points. -/
def textLess (a b : String) : Bool := decide (a.toList < b.toList)

/-- Compares two values of an ordered type, by a test on whether the first is less and whether they are
equal. -/
def compare (test : (less equal : Bool) → Bool) (a b : Value) : Outcome :=
  let ints := fun (a b : Int) => Except.ok (Value.bool (test (decide (a < b)) (a == b)))
  let doubles := fun (a b : Float) => Except.ok (Value.bool (test (decide (a < b)) (a == b)))
  match a, b with
  | .bool a, .bool b => .ok (.bool (test (!a && b) (a == b)))
  | .int a, .int b => ints a b
  | .uint a, .uint b => ints a b
  | .int a, .uint b => ints a b
  | .uint a, .int b => ints a b
  | .double a, .double b => doubles a b
  | .int a, .double b => doubles (toFloat a) b
  | .double a, .int b => doubles a (toFloat b)
  | .uint a, .double b => doubles (toFloat a) b
  | .double a, .uint b => doubles a (toFloat b)
  | .string a, .string b => .ok (.bool (test (textLess a b) (a == b)))
  | .bytes a, .bytes b => .ok (.bool (test (decide (a.map UInt8.toNat < b.map UInt8.toNat)) (a == b)))
  | _, _ => .error .wrongType

/-- An operation on two numbers of one kind. -/
def arithmetic (ofInt : Int → Int → Except EvalError Int) (ofDouble : Float → Float → Float) (a b : Value) :
    Outcome :=
  match a, b with
  | .int a, .int b => (ofInt a b).bind checked
  | .uint a, .uint b => (ofInt a b).bind checkedUint
  | .double a, .double b => .ok (.double (ofDouble a b))
  | _, _ => .error .wrongType

/-- The quotient of two whole numbers, rounded toward zero. -/
def quotient (a b : Int) : Except EvalError Int := if b = 0 then .error .divisionByZero else .ok (a.tdiv b)

/-- The value of an operator, both of whose operands have a value. -/
def Binary.apply (op : Binary) (a b : Value) : Outcome :=
  match op with
  | or | and => .error .wrongType
  | equal => .ok (.bool (a.same b))
  | notEqual => .ok (.bool !(a.same b))
  | less => compare (fun lt _ => lt) a b
  | lessEqual => compare (fun lt eq => lt || eq) a b
  | greater => compare (fun lt _ => lt) b a
  | greaterEqual => compare (fun lt eq => lt || eq) b a
  | member =>
    match b with
    | .list items _ => .ok (.bool (items.any (a.same ·)))
    | .map keys values => .ok (.bool (findKey? a keys values).isSome)
    | _ => .error .wrongType
  | add =>
    match a, b with
    | .string a, .string b => .ok (.string (a ++ b))
    | .bytes a, .bytes b => .ok (.bytes (a ++ b))
    | .list [] _, .list b joined => .ok (.list b joined)
    | .list a joined, .list [] _ => .ok (.list a joined)
    | .list a _, .list b _ => .ok (.list (a ++ b) true)
    | _, _ => arithmetic (fun a b => .ok (a + b)) (· + ·) a b
  | subtract => arithmetic (fun a b => .ok (a - b)) (· - ·) a b
  | multiply => arithmetic (fun a b => .ok (a * b)) (· * ·) a b
  | divide => arithmetic quotient (· / ·) a b
  | modulo =>
    match a, b with
    | .int a, .int b =>
      if b = 0 then .error .divisionByZero
      else if b = -1 then (checked (-a)).map fun _ => .int 0
      else .ok (.int (a.tmod b))
    | .uint a, .uint b => if b = 0 then .error .divisionByZero else .ok (.uint (a % b))
    | _, _ => .error .wrongType

/-- `&&` and `||`: the deciding value on either side wins over everything else. -/
def decideBy (deciding : Bool) (a b : Outcome) : Outcome :=
  match a, b with
  | .ok (.bool a), .ok (.bool b) => .ok (.bool (if a == deciding || b == deciding then deciding else !deciding))
  | .ok (.bool a), .error e => if a == deciding then .ok (.bool deciding) else .error e
  | .error e, .ok (.bool b) => if b == deciding then .ok (.bool deciding) else .error e
  | .ok (.bool a), .ok _ => if a == deciding then .ok (.bool deciding) else .error .wrongType
  | .ok _, .ok (.bool b) => if b == deciding then .ok (.bool deciding) else .error .wrongType
  | .error e, _ => .error e
  | .ok _, _ => .error .wrongType

/-- The item of a list or the value of a map at an index. -/
def itemAt (v i : Value) : Outcome :=
  match v with
  | .list items _ =>
    match i.whole? with
    | some (.ofNat n) =>
      match items[n]? with
      | some item => .ok item
      | none => .error .outOfRange
    | some _ => .error .outOfRange
    | none => .error .wrongType
  | .map keys values =>
    match findKey? i keys values with
    | some item => .ok item
    | none => .error .noKey
  | _ => .error .wrongType

/-- The items that a list or map is made of. -/
def Value.items? : Value → Option (List Value)
  | .list items _ => some items
  | .map keys _ => some keys
  | _ => none

/-! ### Functions -/

/-- The whole number that a text writes in decimal. -/
def readInt? (s : String) : Option Int :=
  let value? := fun (ds : List Char) =>
    if ds.isEmpty || !ds.all Char.isDigit then none
    else some (ds.foldl (fun n c => n * 10 + Int.ofNat (c.toNat - 48)) 0)
  match s.toList with
  | '+' :: ds => value? ds
  | '-' :: ds => (value? ds).map (-·)
  | ds => value? ds

/-- The truth value that a text writes. -/
def readBool? (s : String) : Option Bool :=
  if ["1", "t", "T", "true", "TRUE", "True"].contains s then some true
  else if ["0", "f", "F", "false", "FALSE", "False"].contains s then some false
  else none

/-- Whether a list occurs in another one without gaps. -/
def occurs (part : List Char) : List Char → Bool
  | [] => part.isEmpty
  | c :: cs => part.isPrefixOf (c :: cs) || occurs part cs

/-- The result of a conversion that may fail. -/
def converted {α : Type} (make : α → Outcome) : Option α → Outcome
  | some a => make a
  | none => .error .badConversion

/-- A value as a whole number.  Of a number with a fraction the whole part is taken. -/
def toInt : Value → Outcome
  | .int n => .ok (.int n)
  | .uint n => checked n
  | .double x =>
    if x.abs ≥ 9223372036854775808.0 then .error .overflow else converted checked (truncate? x)
  | .string s => converted checked (readInt? s)
  | _ => .error .wrongType

/-- A value as a whole number without a sign. -/
def toUint : Value → Outcome
  | .uint n => .ok (.uint n)
  | .int n => checkedUint n
  | .double x => if x < 0 then .error .overflow else converted checkedUint (truncate? x)
  | .string s => if s.toList.head?.all Char.isDigit then converted checkedUint (readInt? s) else .error .badConversion
  | _ => .error .wrongType

/-- A value as a double precision number. -/
def toDouble : Value → Outcome
  | .double x => .ok (.double x)
  | .int n => .ok (.double (toFloat n))
  | .uint n => .ok (.double (toFloat n))
  | .string s => converted (fun x => .ok (.double x)) (Double.parse? s)
  | _ => .error .wrongType

/-- A value as a text. -/
def toText : Value → Outcome
  | .string s => .ok (.string s)
  | .int n => .ok (.string (ToString.toString n))
  | .uint n => .ok (.string (ToString.toString n))
  | .bool b => .ok (.string (if b then "true" else "false"))
  | .double x => .ok (.string (Double.render x))
  | .bytes b => converted (fun s => .ok (.string s)) (String.fromUTF8? ⟨b.toArray⟩)
  | _ => .error .wrongType

/-- The value of a call. -/
def Function.apply (f : Function) (arguments : List Value) : Outcome :=
  match f, arguments with
  | size, [.string s] => .ok (.int s.length)
  | size, [.bytes b] => .ok (.int b.length)
  | size, [.list items _] => .ok (.int items.length)
  | size, [.map keys _] => .ok (.int keys.length)
  | contains, [.string s, .string t] => .ok (.bool (occurs t.toList s.toList))
  | startsWith, [.string s, .string t] => .ok (.bool (t.toList.isPrefixOf s.toList))
  | endsWith, [.string s, .string t] => .ok (.bool (t.toList.isSuffixOf s.toList))
  | matchesPattern, [.string s, .string t] =>
    match Regex.parse t with
    | some r => .ok (.bool (r.occursIn s))
    | none => .error .badPattern
  | toBool, [.bool b] => .ok (.bool b)
  | toBool, [.string s] => converted (fun b => .ok (.bool b)) (readBool? s)
  | toInt, [v] => Filter.toInt v
  | toUint, [v] => Filter.toUint v
  | toDouble, [v] => Filter.toDouble v
  | toString, [v] => toText v
  | toBytes, [.bytes b] => .ok (.bytes b)
  | toBytes, [.string s] => .ok (.bytes s.toUTF8.toList)
  | typeOf, [v] => .ok (.type v.typeWord)
  | dyn, [v] => .ok v
  | _, _ => .error .wrongType

/-! ### Expressions -/

/-- Whether the items of a list satisfy a condition; an item that decides wins over one that fails. -/
def quantified (deciding : Bool) (test : Value → Outcome) (items : List Value) : Outcome :=
  items.foldl (fun found item =>
    match found with
    | .ok (.bool b) => if b == deciding then found else decideBy deciding found (test item)
    | _ => decideBy deciding found (test item)) (.ok (.bool !deciding))

/-- The items of a list that pass a test, all of which must have a truth value. -/
def passing (test : Value → Outcome) (items : List Value) : Except EvalError (List Value) :=
  items.filterM fun item => do
    match ← test item with
    | .bool b => .ok b
    | _ => .error .wrongType

mutual

/-- The value of an expression whose names have the given values. -/
def eval (names : List (String × Value)) : Expr → Outcome
  | .literal l => .ok l.value
  | .var name =>
    match names.lookup name with
    | some v => .ok v
    | none => if typeNames.contains name then .ok (.type name) else .error .unknownName
  | .list items => (evalAll names items).map (.list · false)
  | .map keys values => do
    makeMap (← evalAll names keys) (← evalAll names values)
  | .unary .not e => do
    match ← eval names e with
    | .bool b => .ok (.bool !b)
    | _ => .error .wrongType
  | .unary .negate e => do
    match ← eval names e with
    | .int n => checked (-n)
    | .double x => .ok (.double (-x))
    | _ => .error .wrongType
  | .binary .or a b => decideBy true (eval names a) (eval names b)
  | .binary .and a b => decideBy false (eval names a) (eval names b)
  | .binary op a b => do
    op.apply (← eval names a) (← eval names b)
  | .cond test yes no => do
    match ← eval names test with
    | .bool true => eval names yes
    | .bool false => eval names no
    | _ => .error .wrongType
  | .index e i => do
    itemAt (← eval names e) (← eval names i)
  | .select e name => do
    match ← eval names e with
    | .map keys values => itemAt (.map keys values) (.string name)
    | _ => .error .wrongType
  | .has e name => do
    match ← eval names e with
    | .map keys values => .ok (.bool (findKey? (.string name) keys values).isSome)
    | _ => .error .wrongType
  | .call f arguments => do
    f.apply (← evalAll names arguments)
  | .quantify q range name body => do
    match (← eval names range).items? with
    | none => .error .wrongType
    | some items =>
      let test := fun item => eval ((name, item) :: names) body
      match q with
      | .some => quantified true test items
      | .every => quantified false test items
      | .one => return .bool ((← passing test items).length == 1)
  | .collect range name test item => do
    match (← eval names range).items? with
    | none => .error .wrongType
    | some items =>
      let kept ← passing (fun item => eval ((name, item) :: names) test) items
      return .list (← kept.mapM fun kept => eval ((name, kept) :: names) item) false

/-- The values of some expressions. -/
def evalAll (names : List (String × Value)) : List Expr → Except EvalError (List Value)
  | [] => .ok []
  | e :: es => do
    let v ← eval names e
    let vs ← evalAll names es
    return v :: vs

end

end SqlOutline.Filter
