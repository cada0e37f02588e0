import SqlOutline.Yaml.Tree

/-!
# The values of YAML documents

* `Yaml.Value` : scalars, sequences and mappings, without anchors, references and tags;
* `Yaml.Tree.eval` : the value of a tree, given the values of the names before it;
* `Yaml.parse` : the value of the first document of a text.
-/

namespace SqlOutline.Yaml

/-- What a document says. -/
inductive Value where
  /-- The missing value. -/
  | null
  /-- A missing value with a name or a tag. -/
  | void
  /-- A scalar other than the missing value. -/
  | scalar (s : Scalar)
  /-- A point in time. -/
  | instant
  /-- The items of a sequence. -/
  | sequence (items : List Value)
  /-- The members of a mapping, and the members merged into it. -/
  | mapping (members merged : List (String × Value))
  /-- A mapping in which merging brings a key twice. -/
  | clash

namespace Value

/-- The value of a scalar. -/
def ofScalar : Scalar → Value
  | .null => null
  | s => scalar s

/-- A value that has a name or a tag. -/
def decorated : Value → Value
  | null => void
  | v => v

/-- The text of a value, as far as it has one. -/
def shown : Value → String
  | scalar s => s.toText
  | _ => ""

/-- The truth value that a text stands for behind a tag. -/
def truth? (s : String) : Option Bool :=
  let word := String.ofList (s.toList.map Char.toLower)
  if ["1", "t", "true", "yes"].contains word then some true
  else if ["0", "f", "false", "no"].contains word then some false
  else none

/-- A value behind a tag. -/
def withTag? (tag : String) (v : Value) : Option Value :=
  match tag with
  | "!!timestamp" => some instant
  | "!!null" => some void
  | "!!str" => some (scalar (.text v.shown))
  | "!!int" => some (scalar (.int ((readSigned? v.shown.toList).getD 0)))
  | "!!float" => some (scalar (.float ((Double.parse? v.shown).getD 0)))
  | "!!bool" => (truth? v.shown).map fun b => scalar (.bool b)
  | "!!binary" => none
  | _ => some v.decorated

/-- The members that a value brings into a mapping it is merged into. -/
def mergedMembers? : Value → Option (List (String × Value))
  | mapping members merged => some (members ++ merged)
  | _ => none

/-- The members that several values bring into a mapping. -/
def allMembers? : Value → Option (List (String × Value))
  | sequence items => (items.mapM mergedMembers?).map List.flatten
  | v => mergedMembers? v

/-- A key of a mapping. -/
inductive Key where
  /-- A text. -/
  | text (s : String)
  /-- The key whose value is merged into the mapping. -/
  | merge
  /-- A key that is no text. -/
  | other

/-- Whether a key is no text. -/
def Key.isOther : Key → Bool
  | other => true
  | _ => false

/-- The kind of key that a value is. -/
def toKey : Value → Key
  | scalar (.text s) => .text s
  | _ => .other

/-- The mapping with the given members.  One with a key that is no text has no members at all. -/
def ofMembers (members : List (Key × Value)) : Value :=
  if members.any (·.1.isOther) then mapping [] []
  else
    let own := members.filterMap fun m =>
      match m.1 with
      | .text s => some (s, m.2)
      | _ => none
    let merged := members.filterMap fun m =>
      match m.1 with
      | .merge => some (allMembers? m.2)
      | _ => none
    match merged.mapM id with
    | some merged =>
      if ((own ++ merged.flatten).map (·.1)).Nodup then mapping own merged.flatten else clash
    | none => clash

/-- Whether a value is a mapping. -/
def isMapping : Value → Bool
  | mapping _ _ => true
  | clash => true
  | _ => false

/-- Whether a value can be merged into a mapping. -/
def isMergeable : Value → Bool
  | sequence items => items.all isMapping
  | v => v.isMapping

/-- Whether a value is a missing one with a name or a tag. -/
def isVoid : Value → Bool
  | void => true
  | _ => false

end Value

/-- Whether a tree is the key whose value is merged into a mapping. -/
def Tree.isMerge : Tree → Bool
  | .merge => true
  | .tag _ .merge => true
  | _ => false

/-- The values of names. -/
abbrev Anchors := List (String × Value)

mutual

/-- The value of a tree, and the names known behind it.  A name that is used inside its own value stands for
nothing there. -/
def Tree.eval (anchors : Anchors) : Tree → Option (Value × Anchors)
  | .scalar s => some (.ofScalar s, anchors)
  | .sequence items => (evalItems anchors items).map fun (vs, anchors) => (.sequence vs, anchors)
  | .mapping members => (evalMembers anchors members).map fun (ms, anchors) => (.ofMembers ms, anchors)
  | .merge => some (.void, anchors)
  | .anchor _ name value =>
    let inner := if (anchors.lookup name).isSome then anchors else (name, Value.void) :: anchors
    (value.eval inner).map fun (v, anchors) => (v.decorated, (name, v) :: anchors)
  | .reference name => (anchors.lookup name).map (·, anchors)
  | .tag mark value => do
    let (v, anchors) ← value.eval anchors
    return (← v.withTag? mark.text, anchors)
  | .directive => some (.void, anchors)

/-- The values of the items of a sequence. -/
def evalItems (anchors : Anchors) : List Tree → Option (List Value × Anchors)
  | [] => some ([], anchors)
  | t :: ts => do
    let (v, anchors) ← t.eval anchors
    let (vs, anchors) ← evalItems anchors ts
    return (v :: vs, anchors)

/-- The keys and values of the members of a mapping. -/
def evalMembers (anchors : Anchors) : List (Tree × Tree) → Option (List (Value.Key × Value) × Anchors)
  | [] => some ([], anchors)
  | (key, value) :: ts => do
    let (k, anchors) ← key.eval anchors
    let (v, anchors) ← value.eval anchors
    if key.isMerge && !v.isMergeable then none
    else
      let (ms, anchors) ← evalMembers anchors ts
      return ((if key.isMerge then .merge else k.toKey, v) :: ms, anchors)

end

/-- The values of documents that are not empty. -/
def evalDocuments (anchors : Anchors) : List (Option Tree) → Option (List Value)
  | [] => some []
  | none :: ts => evalDocuments anchors ts
  | some t :: ts => do
    let (v, anchors) ← t.eval anchors
    let vs ← evalDocuments anchors ts
    return if v.isVoid then vs else v :: vs

/-- The value of the first document of a text that is not empty.  All documents must be readable. -/
def parse (s : String) : Option (Option Value) := do
  let trees ← Tree.ofText? s
  return (← evalDocuments [] trees).head?

end SqlOutline.Yaml
