import SqlOutline.Layout.Basic
import SqlOutline.Outline.Node
import SqlOutline.Outline.Basic

/-!
# Queries

A query holds the text of one statement, its normalized form if that was asked for, and the elements of
the statement once they have been computed.

* `Query` : the state;
* `Query.set`, `Query.clear` : replace the text, drop the stored elements;
* `Query.elements`, `Query.texts`, `Query.node`, `Query.outline` : what is computed from the text;
* `QueryError` : why a call fails.  A failed call leaves the query as it was.
-/

namespace SqlOutline

/-- Why a call on a query fails. -/
inductive QueryError where
  /-- The text is empty. -/
  | emptyText
  /-- There are no elements to export. -/
  | emptyElements
  /-- The text cannot be normalized. -/
  | normalization (e : MalformedSql)
  /-- The text has no statement that can be grouped. -/
  | parse (e : Statement.FirstError)
  /-- No text has been set. -/
  | notSet
deriving DecidableEq, Repr

/-- The wording of a query error. -/
def QueryError.message : QueryError → String
  | emptyText => "invalid input: query cannot be empty"
  | emptyElements => "invalid input: empty token sequence"
  | normalization e => "failed to normalize SQL: " ++ e.message
  | parse e => "failed to parse SQL: " ++ e.message
  | notSet => "no query set"

/-- The text in the layout used for normalization. -/
def normalize (sql : String) (o : Layout.Options := {}) : Except QueryError String :=
  (Layout.format o sql).mapError .normalization

/-- The elements of the first statement of a text. -/
def parseElements (sql : String) : Except QueryError (List Element) :=
  match Statement.parseFirst sql with
  | .ok s => .ok (Element.ofPieces s.pieces)
  | .error e => .error (.parse e)

/-- The nodes of the elements of a statement, which must not be empty. -/
def exportElements (es : List Element) : Except QueryError (List Node) :=
  match Node.process es with
  | some nodes => .ok nodes
  | none => .error .emptyElements

/-- A query text with what is known of it. -/
structure Query where
  /-- The text as it was given; empty before the first one. -/
  raw : String := ""
  /-- The normalized text, when normalization was asked for. -/
  normalized : Option String := none
  /-- The elements, once they have been computed. -/
  cache : Option (List Element) := none
  /-- How often the elements have been dropped. -/
  generation : Nat := 0
deriving Repr

namespace Query

/-- The text that the elements are computed from. -/
def source (q : Query) : String := q.normalized.getD q.raw

/-- Replaces the text.  With `normalizing` the text is normalized and the elements wait until they are
needed; otherwise the elements are computed at once. -/
def set (q : Query) (text : String) (normalizing : Bool) : Except QueryError Query :=
  if text == "" then .error .emptyText
  else if normalizing then do
    let normalized ← normalize text
    return { q with raw := text, normalized := some normalized, cache := none }
  else do
    let elements ← parseElements text
    return { q with raw := text, normalized := none, cache := some elements }

/-- Drops the stored elements. -/
def clear (q : Query) : Query := { q with cache := none, generation := q.generation + 1 }

/-- The elements of the statement, and the query that has stored them. -/
def elements (q : Query) : Except QueryError (List Element × Query) :=
  if q.raw == "" then .error .notSet
  else
    match q.cache with
    | some es => .ok (es, q)
    | none => do
      let es ← parseElements q.source
      return (es, { q with cache := some es })

/-- The texts of the leaves. -/
def texts (q : Query) : Except QueryError (List String × Query) := do
  let (es, q) ← q.elements
  return (Element.textsOf es, q)

/-- The node around the whole statement. -/
def node (q : Query) : Except QueryError (Node × Query) := do
  let (es, q) ← q.elements
  let children ← exportElements es
  return (Node.root q.source children, q)

/-- The outline of the statement. -/
def outline (q : Query) : Except QueryError (Outline × Query) := do
  let (es, q) ← q.elements
  return (Outline.ofElements es, q)

end Query

/-- The node of a text. -/
def buildNode (sql : String) (normalizing : Bool) : Except QueryError Node := do
  let q ← Query.set {} sql normalizing
  let (node, _) ← q.node
  return node

end SqlOutline
