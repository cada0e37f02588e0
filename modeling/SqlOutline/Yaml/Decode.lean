import SqlOutline.Yaml.Value
import SqlOutline.Outline.Node

/-!
# Typed reading of YAML values

* `Yaml.toText?`, `Yaml.toBool?`, `Yaml.toInt?` : scalars as texts, truth values and whole numbers; the
  missing value leaves the default of the type;
* `Yaml.toNode` : the node that a mapping stands for.
-/

namespace SqlOutline.Yaml

/-- A value as text; the missing value is the empty text. -/
def toText? : Value → Option String
  | .null => some ""
  | .void => some ""
  | .scalar s => some s.toText
  | _ => none

/-- A truth value; nothing when it is missing. -/
def toBool? : Value → Option (Option Bool)
  | .null => some none
  | .void => some none
  | .scalar (.bool b) => some (some b)
  | _ => none

/-- The whole part of a number, cut toward zero; numbers beyond the range give the least one. -/
def truncate (x : Float) : Int :=
  let whole := if x < 0 then x.ceil else x.floor
  if whole ≥ 9223372036854775808.0 || whole < -9223372036854775808.0 || whole.isNaN then minInt
  else whole.toInt64.toInt

/-- A whole number.  A number with a fraction is cut toward zero, and a text may hold a number that is not
negative. -/
def toInt? : Value → Option Int
  | .null => some 0
  | .scalar (.int n) => if n ≤ maxInt then some n else none
  | .scalar (.float x) => if x ≤ 9223372036854775808.0 then some (truncate x) else none
  | .scalar (.text s) =>
    match Double.parse? s with
    | some x => if 0 ≤ x && x ≤ 18446744073709551616.0 then some (truncate x) else none
    | none => none
  | _ => none

/-! ### Nodes -/

/-- Why a document holds no node. -/
inductive ReadError where
  /-- The document cannot be read, or a member has the wrong type. -/
  | malformed
  /-- A child of a group is missing. -/
  | missingChild
deriving DecidableEq, Repr

/-- The members of a node that have been read. -/
structure Fields where
  /-- The tag. -/
  tag : String := ""
  /-- The text. -/
  text : String := ""
  /-- Whether the node is a group. -/
  isGroup : Bool := false
  /-- The children, each of which may be missing, unless a child of a group among them is. -/
  children : Except ReadError (List (Option Node)) := .ok []

/-- The node with the given members.  Only groups have children, none of which may be missing. -/
def Fields.toNode (f : Fields) : Except ReadError Node :=
  if f.isGroup then
    match f.children with
    | .error e => .error e
    | .ok children =>
      match children.mapM id with
      | some children => .ok (.mk f.tag f.text true children)
      | none => .error .missingChild
  else .ok (.mk f.tag f.text false [])

/-- Reads a scalar member. -/
def scalarField (f : Fields) (key : String) (value : Value) : Option Fields :=
  if key == "type" then (toText? value).map fun s => { f with tag := s }
  else if key == "value" then (toText? value).map fun s => { f with text := s }
  else if key == "is_group" then (toBool? value).map fun b => { f with isGroup := b.getD false }
  else some f

mutual

/-- The members of the node that a value stands for. -/
def fields? : Value → Option Fields
  | .mapping members merged => do
    let f ← memberFields? {} members
    memberFields? f merged
  | _ => none

/-- Adds the members of a mapping, in order. -/
def memberFields? (f : Fields) : List (String × Value) → Option Fields
  | [] => some f
  | (key, value) :: rest => do
    let f ←
      if key == "children" then
        match value with
        | .null => some f
        | .sequence items => (childNodes? items).map fun nodes => { f with children := nodes }
        | _ => none
      else scalarField f key value
    memberFields? f rest

/-- The children of a node. -/
def childNodes? : List Value → Option (Except ReadError (List (Option Node)))
  | [] => some (.ok [])
  | v :: vs =>
    match v with
    | .null => (childNodes? vs).map fun r => r.map (none :: ·)
    | _ => do
      let f ← fields? v
      let r ← childNodes? vs
      return f.toNode.bind fun n => r.map (some n :: ·)

end

/-- The node that a document holds; an empty document holds a node without anything. -/
def readNode (s : String) : Except ReadError Node :=
  match parse s with
  | none => .error .malformed
  | some none => Fields.toNode {}
  | some (some v) =>
    match fields? v with
    | some f => f.toNode
    | none => .error .malformed

end SqlOutline.Yaml
