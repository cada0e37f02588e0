import SqlOutline.Filter.Eval
import SqlOutline.Filter.Parser
import SqlOutline.Filter.Typing
import SqlOutline.Outline.Basic

/-!
# Filters on outlines

A filter selects the nodes of an outline on which its expression is true.

* `Filter.Facts` : what an expression knows of a node;
* `Filter.Compiled`, `Filter.compile` : an expression that has been read and typed;
* `Filter.selectBy` : the nodes on which a program is true, in pre-order;
* `Filter.Compiled.select` : the nodes on which an expression is true.
-/

namespace SqlOutline.Filter

/-- What an expression knows of a node. -/
structure Facts where
  /-- The tag of its kind, empty for a node without a label. -/
  kind : String
  /-- Its text, empty for a node without a label. -/
  text : String
  /-- Whether its kind is a group. -/
  isGroup : Bool
  /-- Whether it has no label. -/
  structural : Bool
  /-- Its distance from the root. -/
  level : Nat
  /-- The number of its children. -/
  children : Nat
deriving DecidableEq, Repr

/-- The facts of a node at a distance from the root. -/
def Facts.of (level : Nat) (o : Outline) : Facts where
  kind := (o.label.map (·.kind.tag)).getD ""
  text := (o.label.map (·.text)).getD ""
  isGroup := (o.label.map (·.kind.isGroup)).getD false
  structural := o.isStructural
  level := level
  children := o.children.length

/-- The types of the names that an expression may use. -/
def nameTypes : List (String × Ty) :=
  [("kind", .string), ("text", .string), ("is_group", .bool), ("structural", .bool), ("level", .int),
    ("children", .int)]

/-- The values of these names. -/
def Facts.values (f : Facts) : List (String × Value) :=
  [("kind", .string f.kind), ("text", .string f.text), ("is_group", .bool f.isGroup),
    ("structural", .bool f.structural), ("level", .int f.level), ("children", .int f.children)]

/-! ### Selection -/

/-- Why nodes cannot be selected. -/
inductive SelectError where
  /-- The program has no value on a node. -/
  | evaluation (e : EvalError)
  /-- The program has a value on a node that is no truth value. -/
  | notBoolean (value : Value)
deriving Repr

/-- A program computes a value from the facts of a node. -/
abbrev Program := Facts → Outcome

/-- The truth value of a program on a node. -/
def Program.test (p : Program) (level : Nat) (o : Outline) : Except SelectError Bool :=
  match p (Facts.of level o) with
  | .ok (.bool b) => .ok b
  | .ok v => .error (.notBoolean v)
  | .error e => .error (.evaluation e)

mutual

/-- The nodes of a tree on which a program is true, with their distances; the root has the given one. -/
def selectFrom (p : Program) (level : Nat) : Outline → Except SelectError (List (Nat × Outline))
  | .node label children =>
    match p.test level (.node label children) with
    | .error e => .error e
    | .ok keep =>
      match selectAll p (level + 1) children with
      | .error e => .error e
      | .ok found => .ok (if keep then (level, .node label children) :: found else found)

/-- The nodes of some trees on which a program is true, with their distances. -/
def selectAll (p : Program) (level : Nat) : List Outline → Except SelectError (List (Nat × Outline))
  | [] => .ok []
  | o :: os =>
    match selectFrom p level o with
    | .error e => .error e
    | .ok found =>
      match selectAll p level os with
      | .error e => .error e
      | .ok more => .ok (found ++ more)

end

/-- The nodes of an outline on which a program is true, with their distances from the root. -/
def selectBy (p : Program) (o : Outline) : Except SelectError (List (Nat × Outline)) := selectFrom p 0 o

/-! ### Expressions as filters -/

/-- An expression that has been read and typed. -/
structure Compiled where
  /-- The text of the expression. -/
  source : String
  /-- The expression. -/
  expr : Expr
deriving Repr

/-- A text that is no expression, or one without a type. -/
structure InvalidExpression where
  /-- The text. -/
  source : String
deriving DecidableEq, Repr

/-- The wording of the error. -/
def InvalidExpression.message (_ : InvalidExpression) : String := "invalid filter expression"

/-- Reads and types an expression. -/
def compile (source : String) : Except InvalidExpression Compiled :=
  match parse source with
  | some e => if (infer nameTypes e).isSome then .ok ⟨source, e⟩ else .error ⟨source⟩
  | none => .error ⟨source⟩

/-- The program of an expression. -/
def Compiled.program (f : Compiled) : Program := fun facts => eval facts.values f.expr

/-- The nodes of an outline on which an expression is true, with their distances from the root. -/
def Compiled.select (f : Compiled) (o : Outline) : Except SelectError (List (Nat × Outline)) :=
  selectBy f.program o

/-- The wording of a selection error. -/
def Compiled.message (f : Compiled) : SelectError → String
  | .evaluation _ => "CEL evaluation error"
  | .notBoolean v =>
    "filter expression must evaluate to bool: " ++ Text.quote f.source ++ " returned " ++ v.typeName

end SqlOutline.Filter
