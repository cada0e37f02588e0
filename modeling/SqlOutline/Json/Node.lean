import SqlOutline.Json.Reader
import SqlOutline.Outline.Node
import SqlOutline.Text.LetterCase

/-!
# Nodes as JSON

* `Json.ofNode` : a node is an object with the members `type`, `value`, `is_group` and, for a group,
  `children`;
* `Json.encode` : the text of a node, unless it nests too deep;
* `Json.toNode?` : reading is lenient.  Keys are compared without letter case, other members are ignored,
  the last of several equal keys counts, and `null` leaves a member at its default.
-/

namespace SqlOutline.Json

mutual

/-- The value of a node. -/
def ofNode : Node → Json
  | .mk tag text isGroup children =>
    object ([("type", string tag), ("value", string text), ("is_group", bool isGroup)]
      ++ if isGroup then [("children", array (ofNodes children))] else [])

/-- The values of a list of nodes. -/
def ofNodes : List Node → List Json
  | [] => []
  | n :: ns => ofNode n :: ofNodes ns

end

/-- A node whose text nests too deep. -/
structure TooDeep where
  /-- The number of nodes around it. -/
  around : Nat
deriving DecidableEq, Repr

/-- The wording of the error.  Each of the nodes around fails with it as well. -/
def TooDeep.message (e : TooDeep) : String :=
  String.join (List.replicate (e.around + 1) "json: error calling MarshalJSON for type tree.Node: ")
    ++ "invalid character '\x7b' exceeded max depth"

mutual

/-- How deep the text of a node nests.  A node is encoded after all nodes inside it, and then its text is
looked through. -/
def encodedDepth : Node → Except TooDeep Nat
  | .mk _ _ false _ => .ok 1
  | .mk _ _ true children =>
    match encodedDepths children with
    | .error e => .error { around := e.around + 1 }
    | .ok inner => if inner + 2 ≤ maxDepth then .ok (inner + 2) else .error { around := 0 }

/-- How deep the texts of a list of nodes nest. -/
def encodedDepths : List Node → Except TooDeep Nat
  | [] => .ok 0
  | n :: ns => do
    let first ← encodedDepth n
    let rest ← encodedDepths ns
    return max first rest

end

/-- The text of a node, unless it nests too deep. -/
def encode (style : Style) (n : Node) : Except TooDeep String :=
  (encodedDepth n).map fun _ => render style (ofNode n)

/-- The members of a node that have been read. -/
structure Fields where
  /-- The tag. -/
  tag : String := ""
  /-- The text. -/
  text : String := ""
  /-- Whether the node is a group. -/
  isGroup : Bool := false
  /-- The children. -/
  children : List Node := []

/-- The node with the given members. -/
def Fields.toNode (f : Fields) : Node := .mk f.tag f.text f.isGroup f.children

mutual

/-- The node that a value stands for. -/
def toNode? : Json → Option Node
  | null => some .empty
  | object members => (readMembers {} members).map Fields.toNode
  | _ => none

/-- Adds the members of an object, in order. -/
def readMembers (f : Fields) : List (String × Json) → Option Fields
  | [] => some f
  | (key, value) :: rest =>
    if Text.foldsTo key "type" then
      match value with
      | string s => readMembers { f with tag := s } rest
      | null => readMembers f rest
      | _ => none
    else if Text.foldsTo key "value" then
      match value with
      | string s => readMembers { f with text := s } rest
      | null => readMembers f rest
      | _ => none
    else if Text.foldsTo key "is_group" then
      match value with
      | bool b => readMembers { f with isGroup := b } rest
      | null => readMembers f rest
      | _ => none
    else if Text.foldsTo key "children" then
      match value with
      | array items =>
        match toNodes? items with
        | some nodes => readMembers { f with children := nodes } rest
        | none => none
      | null => readMembers { f with children := [] } rest
      | _ => none
    else readMembers f rest

/-- The nodes that a list of values stands for. -/
def toNodes? : List Json → Option (List Node)
  | [] => some []
  | j :: js =>
    match toNode? j with
    | some n => (toNodes? js).map (n :: ·)
    | none => none

end

end SqlOutline.Json
