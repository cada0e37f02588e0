/-!
# Filter expressions

The expressions by which nodes of an outline are selected.

* `Filter.Literal`, `Filter.Unary`, `Filter.Binary`, `Filter.Quantifier` : the parts;
* `Filter.Function` : the functions that an expression may call;
* `Filter.Expr` : the expressions.
-/

namespace SqlOutline.Filter

/-- A constant. -/
inductive Literal where
  | null
  | bool (value : Bool)
  | int (value : Int)
  | uint (value : Nat)
  | double (value : Float)
  | string (value : String)
  | bytes (value : List UInt8)
deriving Repr

/-- An operator with one operand. -/
inductive Unary where
  | not | negate
deriving DecidableEq, Repr

/-- An operator with two operands. -/
inductive Binary where
  | or | and
  | equal | notEqual | less | lessEqual | greater | greaterEqual | member
  | add | subtract | multiply | divide | modulo
deriving DecidableEq, Repr

/-- A statement about the items of a list. -/
inductive Quantifier where
  /-- For some item. -/
  | some
  /-- For every item. -/
  | every
  /-- For one item and no other. -/
  | one
deriving DecidableEq, Repr

/-- A function on values. -/
inductive Function where
  | size | contains | startsWith | endsWith | matchesPattern
  | toBool | toInt | toUint | toDouble | toString | toBytes
  /-- The type of a value. -/
  | typeOf
  /-- The value itself, of which no type is known. -/
  | dyn
deriving DecidableEq, Repr

/-- An expression. -/
inductive Expr where
  | literal (value : Literal)
  | var (name : String)
  | list (items : List Expr)
  /-- A map, given by its keys and the value of each. -/
  | map (keys values : List Expr)
  | unary (op : Unary) (e : Expr)
  | binary (op : Binary) (a b : Expr)
  | cond (test yes no : Expr)
  | index (e i : Expr)
  /-- A member of a value by its name. -/
  | select (e : Expr) (name : String)
  /-- Whether a value has a member of the name. -/
  | has (e : Expr) (name : String)
  | call (f : Function) (arguments : List Expr)
  /-- Whether the items of a list satisfy a condition on the named item. -/
  | quantify (q : Quantifier) (range : Expr) (name : String) (body : Expr)
  /-- The list of what is made of the items of a list that pass a test on the named item. -/
  | collect (range : Expr) (name : String) (test item : Expr)
deriving Repr

/-- The function of a name that stands before its arguments. -/
def Function.ofGlobal? (name : String) : Option Function :=
  match name with
  | "size" => some .size
  | "matches" => some .matchesPattern
  | "bool" => some .toBool
  | "int" => some .toInt
  | "uint" => some .toUint
  | "double" => some .toDouble
  | "string" => some .toString
  | "bytes" => some .toBytes
  | "type" => some .typeOf
  | "dyn" => some .dyn
  | _ => none

/-- The function of a name that stands behind its first argument. -/
def Function.ofMethod? (name : String) : Option Function :=
  match name with
  | "size" => some .size
  | "contains" => some .contains
  | "startsWith" => some .startsWith
  | "endsWith" => some .endsWith
  | "matches" => some .matchesPattern
  | _ => none

end SqlOutline.Filter
