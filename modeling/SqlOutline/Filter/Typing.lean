import SqlOutline.Filter.Expr
import SqlOutline.Filter.Ty

/-!
# Types of filter expressions

An expression is typed before it is used.

* `Filter.Unary.overloads`, `Filter.Binary.overloads`, `Filter.Function.overloads` : the types that operators and
  functions take and give;
* `Filter.infer` : the type of an expression, if it has one.
-/

namespace SqlOutline.Filter

/-- The type of a constant. -/
def Literal.ty : Literal → Ty
  | null => .null
  | bool _ => .bool
  | int _ => .int
  | uint _ => .uint
  | double _ => .double
  | string _ => .string
  | bytes _ => .bytes

/-- The names of types, which are values too. -/
def typeNames : List String :=
  ["bool", "bytes", "double", "int", "list", "map", "null_type", "string", "type", "uint"]

/-! ### Operators and functions -/

/-- Overloads on two values of the same type, for each of some types. -/
def pairs (types : List Ty) (result : Ty → Ty) : List Overload := types.map fun t => ⟨[t, t], result t⟩

/-- Overloads on one value, for each of some types. -/
def conversions (types : List Ty) (result : Ty) : List Overload := types.map fun t => ⟨[t], result⟩

/-- What an operator with one operand takes and gives. -/
def Unary.overloads : Unary → List Overload
  | not => [⟨[.bool], .bool⟩]
  | negate => [⟨[.double], .double⟩, ⟨[.int], .int⟩]

/-- What an operator with two operands takes and gives.  Numbers of different kinds do not mix. -/
def Binary.overloads : Binary → List Overload
  | or | and => [⟨[.bool, .bool], .bool⟩]
  | equal | notEqual => [⟨[.var 0, .var 0], .bool⟩]
  | less | lessEqual | greater | greaterEqual =>
    pairs [.bool, .int, .double, .uint, .string, .bytes] fun _ => .bool
  | member => [⟨[.var 0, .list (.var 0)], .bool⟩, ⟨[.var 0, .map (.var 0) (.var 1)], .bool⟩]
  | add => pairs [.bytes, .double, .int, .list (.var 0), .string, .uint] id
  | subtract | multiply | divide => pairs [.double, .int, .uint] id
  | modulo => pairs [.int, .uint] id

/-- What a choice takes and gives. -/
def choiceOverloads : List Overload := [⟨[.bool, .var 0, .var 0], .var 0⟩]

/-- What an index takes and gives. -/
def indexOverloads : List Overload :=
  [⟨[.list (.var 0), .int], .var 0⟩, ⟨[.map (.var 0) (.var 1), .var 0], .var 1⟩]

/-- What a function takes and gives. -/
def Function.overloads : Function → List Overload
  | size => conversions [.string, .bytes, .list (.var 0), .map (.var 0) (.var 1)] .int
  | contains | startsWith | endsWith | matchesPattern => [⟨[.string, .string], .bool⟩]
  | toBool => conversions [.bool, .string] .bool
  | toInt => conversions [.int, .double, .string, .uint] .int
  | toUint => conversions [.uint, .double, .int, .string] .uint
  | toDouble => conversions [.double, .int, .string, .uint] .double
  | toString => conversions [.string, .bool, .bytes, .double, .int, .uint] .string
  | toBytes => conversions [.bytes, .string] .bytes
  | typeOf => [⟨[.var 0], .type⟩]
  | dyn => [⟨[.var 0], .dyn⟩]

/-! ### Expressions -/

/-- The type of the items that a value of the given type is made of: the items of a list, the keys of a map. -/
def itemType? (t : Ty) (u : Unifier) : Option (Ty × Unifier) :=
  match u.resolve t with
  | .list item => some (item, u)
  | .map key _ => some (key, u)
  | .dyn => some (.dyn, u)
  | .var n => some (.dyn, (u.learn? n .dyn).getD u)
  | _ => none

/-- The type of a member of a value of the given type. -/
def memberType? (t : Ty) (u : Unifier) : Option (Ty × Unifier) :=
  match u.resolve t with
  | .map _ value => some (value, u)
  | .dyn => some (.dyn, u)
  | .var n => some (.dyn, (u.learn? n .dyn).getD u)
  | _ => none

/-- The type of the values of some types together; of none there is a new variable. -/
def joinAll (types : List Ty) (u : Unifier) : Ty × Unifier :=
  match types with
  | [] => u.fresh
  | t :: ts => ts.foldl (fun found t => Unifier.join found.1 t found.2) (t, u)

mutual

/-- The type of an expression whose names have the given types. -/
def inferWith (names : List (String × Ty)) : Expr → Unifier → Option (Ty × Unifier)
  | .literal l, u => some (l.ty, u)
  | .var name, u =>
    match names.lookup name with
    | some t => some (t, u)
    | none => if typeNames.contains name then some (.type, u) else none
  | .list items, u => do
    let (types, u) ← inferAll names items u
    let (item, u) := joinAll types u
    return (.list item, u)
  | .map keys values, u => do
    let (keyTypes, u) ← inferAll names keys u
    let (valueTypes, u) ← inferAll names values u
    let (key, u) := joinAll keyTypes u
    let (value, u) := joinAll valueTypes u
    return (.map key value, u)
  | .unary op e, u => do
    let (t, u) ← inferWith names e u
    u.call? op.overloads [t]
  | .binary op a b, u => do
    let (s, u) ← inferWith names a u
    let (t, u) ← inferWith names b u
    u.call? op.overloads [s, t]
  | .cond test yes no, u => do
    let (r, u) ← inferWith names test u
    let (s, u) ← inferWith names yes u
    let (t, u) ← inferWith names no u
    u.call? choiceOverloads [r, s, t]
  | .index e i, u => do
    let (s, u) ← inferWith names e u
    let (t, u) ← inferWith names i u
    u.call? indexOverloads [s, t]
  | .select e _, u => do
    let (t, u) ← inferWith names e u
    memberType? t u
  | .has e _, u => do
    let (t, u) ← inferWith names e u
    let (_, u) ← memberType? t u
    return (.bool, u)
  | .call f arguments, u => do
    let (types, u) ← inferAll names arguments u
    u.call? f.overloads types
  | .quantify _ range name body, u => do
    let (t, u) ← inferWith names range u
    let (item, u) ← itemType? t u
    let (t, u) ← inferWith ((name, item) :: names) body u
    return (.bool, ← Unifier.fit? t .bool u)
  | .collect range name test item, u => do
    let (t, u) ← inferWith names range u
    let (itemType, u) ← itemType? t u
    let (t, u) ← inferWith ((name, itemType) :: names) test u
    let u ← Unifier.fit? t .bool u
    let (t, u) ← inferWith ((name, itemType) :: names) item u
    return (.list t, u)

/-- The types of some expressions. -/
def inferAll (names : List (String × Ty)) : List Expr → Unifier → Option (List Ty × Unifier)
  | [], u => some ([], u)
  | e :: es, u => do
    let (t, u) ← inferWith names e u
    let (ts, u) ← inferAll names es u
    return (t :: ts, u)

end

/-- The type of an expression whose names have the given types. -/
def infer (names : List (String × Ty)) (e : Expr) : Option Ty :=
  (inferWith names e {}).map fun (t, u) => u.resolve t

end SqlOutline.Filter
