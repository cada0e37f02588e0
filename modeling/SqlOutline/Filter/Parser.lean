import SqlOutline.Filter.Lexer

/-!
# Reading filter expressions

`Filter.parse` reads an expression.  From the loosest to the tightest, the operators are the choice, `||`,
`&&`, comparisons and membership, sums, products, and the operators with one operand.
-/

namespace SqlOutline.Filter

/-- The words that stand for operators and constants. -/
def keywords : List String := ["false", "in", "null", "true"]

/-- The words that cannot be names. -/
def reservedNames : List String :=
  ["as", "break", "const", "continue", "else", "for", "function", "if", "import", "let", "loop", "package",
    "namespace", "return", "var", "void", "while"] ++ keywords

/-- The operator of a word, among some of them. -/
def operator? (table : List (String × Binary)) : Word → Option Binary
  | .mark text => (table.find? (·.1 == text)).map (·.2)
  | .name text => if text == "in" then (table.find? (·.1 == "in")).map (·.2) else none
  | _ => none

/-- The operators of comparisons. -/
def relations : List (String × Binary) :=
  [("==", .equal), ("!=", .notEqual), ("<", .less), ("<=", .lessEqual), (">", .greater),
    (">=", .greaterEqual), ("in", .member)]

/-- The operators of sums. -/
def sums : List (String × Binary) := [("+", .add), ("-", .subtract)]

/-- The operators of products. -/
def products : List (String × Binary) := [("*", .multiply), ("/", .divide), ("%", .modulo)]

/-- The binary operators by how tightly they bind. -/
def levels : List (List (String × Binary)) :=
  [[("||", .or)], [("&&", .and)], relations, sums, products]

/-- Whole numbers have 64 bits. -/
def intLiteral? (n : Int) : Option Expr :=
  if Int64.minValue.toInt ≤ n ∧ n ≤ Int64.maxValue.toInt then some (.literal (.int n)) else none

/-- Counts the marks of one kind at the front. -/
def countMarks (text : String) : List Word → Nat × List Word
  | .mark m :: rest =>
    if m == text then
      let (n, rest) := countMarks text rest
      (n + 1, rest)
    else (0, .mark m :: rest)
  | ws => (0, ws)

/-- Whole numbers without a sign have 64 bits. -/
def uintLiteral? (n : Nat) : Option Expr :=
  if n ≤ UInt64.size - 1 then some (.literal (.uint n)) else none

/-- An operator that stands a number of times before its operand.  Twice the operator is as good as none. -/
def applyUnary (op : Unary) (n : Nat) (e : Expr) : Expr := if n % 2 = 0 then e else .unary op e

/-- A call of a function that stands before its arguments. -/
def globalCall? (name : String) (arguments : List Expr) : Option Expr :=
  match name, arguments with
  | "has", [.select e member] => some (.has e member)
  | _, _ => (Function.ofGlobal? name).map (.call · arguments)

/-- A call of a function that stands behind its first argument.  What speaks of the items of a list names the
item. -/
def methodCall? (target : Expr) (name : String) (arguments : List Expr) : Option Expr :=
  let always := Expr.literal (.bool true)
  match name, arguments with
  | "exists", [.var x, body] => some (.quantify .some target x body)
  | "all", [.var x, body] => some (.quantify .every target x body)
  | "exists_one", [.var x, body] => some (.quantify .one target x body)
  | "existsOne", [.var x, body] => some (.quantify .one target x body)
  | "map", [.var x, item] => some (.collect target x always item)
  | "map", [.var x, test, item] => some (.collect target x test item)
  | "filter", [.var x, test] => some (.collect target x test (.var x))
  | _, _ => (Function.ofMethod? name).map (.call · (target :: arguments))

mutual

/-- An expression: a choice, or what stands below it. -/
def expr? : (fuel : Nat) → List Word → Option (Expr × List Word)
  | 0, _ => none
  | fuel + 1, ws => do
    let (e, ws) ← level? fuel levels ws
    match ws with
    | .mark "?" :: ws =>
      let (yes, ws) ← level? fuel levels ws
      match ws with
      | .mark ":" :: ws =>
        let (no, ws) ← expr? fuel ws
        return (.cond e yes no, ws)
      | _ => none
    | _ => return (e, ws)

/-- An expression whose operators are of the given levels. -/
def level? : (fuel : Nat) → List (List (String × Binary)) → List Word → Option (Expr × List Word)
  | 0, _, _ => none
  | fuel + 1, [], ws => unary? fuel ws
  | fuel + 1, table :: tighter, ws => do
    let (e, ws) ← level? fuel tighter ws
    chain? fuel table tighter e ws

/-- The operators of one level that follow an expression, grouped from the left. -/
def chain? : (fuel : Nat) → List (String × Binary) → List (List (String × Binary)) → Expr → List Word →
    Option (Expr × List Word)
  | 0, _, _, _, _ => none
  | fuel + 1, table, tighter, e, ws =>
    match ws with
    | w :: rest =>
      match operator? table w with
      | some op => do
        let (b, ws) ← level? fuel tighter rest
        chain? fuel table tighter (.binary op e b) ws
      | none => some (e, ws)
    | [] => some (e, [])

/-- An expression with operators of one operand before it.  A lone minus belongs to the number after it. -/
def unary? : (fuel : Nat) → List Word → Option (Expr × List Word)
  | 0, _ => none
  | fuel + 1, ws =>
    match countMarks "!" ws with
    | (n + 1, rest) => do
      let (e, ws) ← member? fuel rest
      return (applyUnary .not (n + 1) e, ws)
    | (0, _) =>
      match countMarks "-" ws with
      | (1, .int value :: rest) => do
        suffix? fuel (← intLiteral? (-(Int.ofNat value))) rest
      | (1, .double value :: rest) => suffix? fuel (.literal (.double (-value))) rest
      | (n + 1, rest) => do
        let (e, ws) ← member? fuel rest
        return (applyUnary .negate (n + 1) e, ws)
      | (0, _) => member? fuel ws

/-- A simple expression with selections, calls and indexes behind it. -/
def member? : (fuel : Nat) → List Word → Option (Expr × List Word)
  | 0, _ => none
  | fuel + 1, ws => do
    let (e, ws) ← primary? fuel ws
    suffix? fuel e ws

/-- The selections, calls and indexes behind an expression. -/
def suffix? : (fuel : Nat) → Expr → List Word → Option (Expr × List Word)
  | 0, _, _ => none
  | fuel + 1, e, ws =>
    match ws with
    | .mark "." :: .name name :: .mark "(" :: rest => do
      let (arguments, rest) ← arguments? fuel ")" rest
      suffix? fuel (← methodCall? e name arguments) rest
    | .mark "." :: .name name :: rest =>
      if keywords.contains name then none else suffix? fuel (.select e name) rest
    | .mark "[" :: rest => do
      let (i, rest) ← expr? fuel rest
      match rest with
      | .mark "]" :: rest => suffix? fuel (.index e i) rest
      | _ => none
    | _ => some (e, ws)

/-- Expressions separated by commas up to a closing mark.  In a list a comma may stand before the mark. -/
def arguments? : (fuel : Nat) → (close : String) → List Word → Option (List Expr × List Word)
  | 0, _, _ => none
  | fuel + 1, close, ws =>
    match ws with
    | .mark "," :: .mark "]" :: rest => if close == "]" then some ([], rest) else none
    | .mark m :: rest => if m == close then some ([], rest) else more? fuel close ws
    | _ => more? fuel close ws

/-- At least one expression, and more behind commas, up to a closing mark. -/
def more? : (fuel : Nat) → (close : String) → List Word → Option (List Expr × List Word)
  | 0, _, _ => none
  | fuel + 1, close, ws => do
    let (e, ws) ← expr? fuel ws
    match ws with
    | .mark "," :: .mark m :: rest =>
      if close == "]" && m == close then return ([e], rest)
      else
        let (es, rest) ← more? fuel close (.mark m :: rest)
        return (e :: es, rest)
    | .mark "," :: rest =>
      let (es, rest) ← more? fuel close rest
      return (e :: es, rest)
    | .mark m :: rest => if m == close then return ([e], rest) else none
    | _ => none

/-- The keys and values of a map up to its closing brace. -/
def entries? : (fuel : Nat) → List Word → Option (List Expr × List Expr × List Word)
  | 0, _ => none
  | fuel + 1, ws =>
    match ws with
    | .mark "\x7d" :: rest => some ([], [], rest)
    | .mark "," :: .mark "\x7d" :: rest => some ([], [], rest)
    | _ => moreEntries? fuel ws

/-- At least one key with its value, and more behind commas, up to a closing brace. -/
def moreEntries? : (fuel : Nat) → List Word → Option (List Expr × List Expr × List Word)
  | 0, _ => none
  | fuel + 1, ws => do
    let (key, ws) ← expr? fuel ws
    match ws with
    | .mark ":" :: ws =>
      let (value, ws) ← expr? fuel ws
      match ws with
      | .mark "," :: .mark "\x7d" :: rest => return ([key], [value], rest)
      | .mark "\x7d" :: rest => return ([key], [value], rest)
      | .mark "," :: rest =>
        let (keys, values, rest) ← moreEntries? fuel rest
        return (key :: keys, value :: values, rest)
      | _ => none
    | _ => none

/-- A constant, a name, a call, a list, a map, or an expression in parentheses. -/
def primary? : (fuel : Nat) → List Word → Option (Expr × List Word)
  | 0, _ => none
  | fuel + 1, ws =>
    match ws with
    | .int n :: rest => do return (← intLiteral? n, rest)
    | .uint n :: rest => do return (← uintLiteral? n, rest)
    | .double x :: rest => some (.literal (.double x), rest)
    | .string s :: rest => some (.literal (.string s), rest)
    | .bytes b :: rest => some (.literal (.bytes b), rest)
    | .name "true" :: rest => some (.literal (.bool true), rest)
    | .name "false" :: rest => some (.literal (.bool false), rest)
    | .name "null" :: rest => some (.literal .null, rest)
    | .name name :: .mark "(" :: rest =>
      if reservedNames.contains name then none
      else do
        let (arguments, rest) ← arguments? fuel ")" rest
        return (← globalCall? name arguments, rest)
    | .name name :: rest => if reservedNames.contains name then none else some (.var name, rest)
    | .mark "." :: .name name :: rest =>
      if reservedNames.contains name then none
      else
        match rest with
        | .mark "(" :: rest => do
          let (arguments, rest) ← arguments? fuel ")" rest
          return (← globalCall? name arguments, rest)
        | _ => some (.var name, rest)
    | .mark "(" :: rest => do
      let (e, rest) ← expr? fuel rest
      match rest with
      | .mark ")" :: rest => return (e, rest)
      | _ => none
    | .mark "[" :: rest => do
      let (items, rest) ← arguments? fuel "]" rest
      return (.list items, rest)
    | .mark "\x7b" :: rest => do
      let (keys, values, rest) ← entries? fuel rest
      return (.map keys values, rest)
    | _ => none

end

/-- How deep brackets open inside one another at most, when `depth` of them are open before the words. -/
def nesting (depth : Nat) : List Word → Nat
  | [] => depth
  | .mark m :: ws =>
    if ["(", "[", "\x7b"].contains m then nesting (depth + 1) ws
    else if [")", "]", "\x7d"].contains m then max depth (nesting (depth - 1) ws)
    else nesting depth ws
  | _ :: ws => nesting depth ws

/-- Expressions with that many brackets inside one another are refused. -/
def nestingLimit : Nat := 250

/-- The expression that a text writes. -/
def parse (s : String) : Option Expr := do
  let cs := s.toList
  let ws ← words? cs.length cs
  if nestingLimit ≤ nesting 0 ws then failure
  let (e, rest) ← expr? (20 * ws.length + 20) ws
  if rest.isEmpty then some e else none

end SqlOutline.Filter
