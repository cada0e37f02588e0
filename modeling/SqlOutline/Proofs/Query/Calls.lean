import SqlOutline.Query

/-!
# Calls on a query

A query is used through a series of calls.  Two machines answer them:

* `Query.step`, `Query.run` : the query itself, which keeps the normalized text and the elements that it has
  computed;
* `Query.Uncached` : a machine that keeps the last text and its mode, counts the calls of `Call.clear`, and
  computes everything else anew for every call.

A call that fails leaves either machine as it was (`Query.settle`).
-/

namespace SqlOutline.Query

/-- A call on a query. -/
inductive Call where
  | set (text : String) (normalizing : Bool)
  | clear
  | elements
  | texts
  | node
  | outline
deriving DecidableEq, Repr

/-- What a call returns. -/
inductive Reply where
  | done
  | elements (es : List Element)
  | texts (ts : List String)
  | node (n : Node)
  | outline (sql : String) (o : Outline)
  | failure (e : QueryError)
deriving Repr

/-- What can be read from a query between two calls. -/
structure View where
  raw : String
  normalized : Option String
  generation : Nat
deriving DecidableEq, Repr

/-- The reply and the state after a call on the state `s`. -/
def settle {σ : Type} (s : σ) : Except QueryError (Reply × σ) → Reply × σ
  | .ok r => r
  | .error e => (.failure e, s)

/-! ### The query -/

def view (q : Query) : View := ⟨q.raw, q.normalized, q.generation⟩

/-- The reply to a call and the query after it, unless the call fails. -/
def perform (q : Query) : Call → Except QueryError (Reply × Query)
  | .set text normalizing => (q.set text normalizing).map fun q => (.done, q)
  | .clear => .ok (.done, q.clear)
  | .elements => q.elements.map fun (es, q) => (.elements es, q)
  | .texts => q.texts.map fun (ts, q) => (.texts ts, q)
  | .node => q.node.map fun (n, q) => (.node n, q)
  | .outline => q.outline.map fun (o, q) => (.outline q.source o, q)

def step (q : Query) (c : Call) : Reply × Query := settle q (q.perform c)

/-- The replies to a series of calls, each with what can be read after it. -/
def run (q : Query) : List Call → List (Reply × View)
  | [] => []
  | c :: cs => ((q.step c).1, (q.step c).2.view) :: (q.step c).2.run cs

/-! ### The machine without stored results -/

/-- The last text that could be set, with whether it is normalized, and the number of calls of `Call.clear`. -/
structure Uncached where
  setting : Option (String × Bool) := none
  clears : Nat := 0
deriving DecidableEq, Repr

namespace Uncached

/-- The text that the elements are computed from. -/
def source (m : Uncached) : Except QueryError String :=
  match m.setting with
  | none => .error .notSet
  | some (text, true) => normalize text
  | some (text, false) => .ok text

/-- The source with its elements. -/
def parsed (m : Uncached) : Except QueryError (String × List Element) := do
  let sql ← m.source
  let es ← parseElements sql
  return (sql, es)

/-- Whether a text can be set. -/
def check (text : String) (normalizing : Bool) : Except QueryError Unit :=
  if text = "" then .error .emptyText
  else if normalizing then (normalize text).map fun _ => ()
  else (parseElements text).map fun _ => ()

def perform (m : Uncached) : Call → Except QueryError (Reply × Uncached)
  | .set text normalizing =>
    (check text normalizing).map fun _ => (.done, { m with setting := some (text, normalizing) })
  | .clear => .ok (.done, { m with clears := m.clears + 1 })
  | .elements => m.parsed.map fun (_, es) => (.elements es, m)
  | .texts => m.parsed.map fun (_, es) => (.texts (Element.textsOf es), m)
  | .node => m.parsed.map fun (sql, es) => (.node (.root sql (Node.ofElements es)), m)
  | .outline => m.parsed.map fun (sql, es) => (.outline sql (Outline.ofElements es), m)

def view (m : Uncached) : View :=
  match m.setting with
  | none => ⟨"", none, m.clears⟩
  | some (text, true) => ⟨text, (normalize text).toOption, m.clears⟩
  | some (text, false) => ⟨text, none, m.clears⟩

def step (m : Uncached) (c : Call) : Reply × Uncached := settle m (m.perform c)

/-- The replies to a series of calls, each with what can be read after it. -/
def run (m : Uncached) : List Call → List (Reply × View)
  | [] => []
  | c :: cs => ((m.step c).1, (m.step c).2.view) :: (m.step c).2.run cs

end Uncached

end SqlOutline.Query
