import SqlOutline.Layout.KeywordCase
import SqlOutline.Token.Parens

/-!
# Layout of SQL text

Formatting keeps the tokens of a text and chooses the white space between them and the spelling of
keywords.

* `Layout.Options` : the choices;
* `Layout.isClauseStart` : the tokens that start a line of their own;
* `Layout.State`, `Layout.separator`, `Layout.State.after` : what is known before a token, the white space
  written before it, and what is known after it;
* `Layout.format` : the formatted text.
-/

namespace SqlOutline.Layout

/-- The choices of a layout. -/
structure Options where
  /-- Start every outer clause on a line of its own and indent the conditions of `WHERE`. -/
  reindent : Bool := true
  /-- The spelling of keywords. -/
  keywordCase : KeywordCase := .upper
  /-- Write every run of white space as one space. -/
  stripWhitespace : Bool := true
  /-- The number of spaces before a condition of `WHERE`; a negative number is taken as zero. -/
  indentWidth : Int := 2
deriving DecidableEq, Repr

/-- The text of a token in the chosen spelling. -/
def Options.textOf (o : Options) (t : Token) : String :=
  if t.lexClass.isKeyword then o.keywordCase.apply t.text else t.text

/-! ### Clauses -/

/-- The keywords that start a clause. -/
def startsClause : LexClass → Bool
  | .keyword k =>
    [.SELECT, .FROM, .WHERE, .GROUP, .ORDER, .HAVING, .LIMIT, .OFFSET, .UNION, .EXCEPT, .INTERSECT,
      .SET, .VALUES, .RETURNING, .JOIN].contains k
  | _ => false

/-- Whether a token is a word that may stand before `JOIN`. -/
def isJoinModifier (t : Token) : Bool :=
  t.lexClass == .reservedWord &&
    ["LEFT", "RIGHT", "INNER", "FULL", "CROSS", "NATURAL", "OUTER"].contains (Text.upper t.text)

/-- Whether a token starts a clause when it comes after `last`.  The words of one join stay together, and a
query right after a parenthesis stays there. -/
def isClauseStart (last t : Token) : Bool :=
  if isJoinModifier t || t.lexClass == .keyword .JOIN then !isJoinModifier last
  else if t.lexClass == .keyword .SELECT then last.lexClass != .openParen
  else startsClause t.lexClass

/-! ### Separators -/

/-- What is known before a token. -/
structure State where
  /-- The last token that was written. -/
  last : Option Token := none
  /-- Whether white space stood after it. -/
  gap : Bool := false
  /-- The number of open parentheses. -/
  depth : Nat := 0
  /-- Whether the current clause is a `WHERE` clause. -/
  inWhere : Bool := false
  /-- Whether a `BETWEEN` still waits for its `AND`. -/
  betweenOpen : Bool := false
deriving DecidableEq, Repr

/-- The depth at which a token stands: a closing parenthesis already stands outside. -/
def State.depthAt (s : State) (t : Token) : Nat :=
  if t.lexClass = .closeParen then s.depth - 1 else s.depth

/-- The white space between two tokens of one line. -/
def inlineSeparator (gap : Bool) (last t : Token) : String :=
  if last.lexClass = .lineComment then "\n"
  else if [.comma, .closeParen, .semicolon, .dot].contains t.lexClass then ""
  else if [.openParen, .dot].contains last.lexClass then ""
  else if last.lexClass = .comma then " "
  else if gap then " " else ""

/-- What the line structure asks of a token outside parentheses. -/
inductive Break where
  /-- No new line. -/
  | stay
  /-- A new statement. -/
  | statement
  /-- A new clause. -/
  | clause
  /-- A `BETWEEN` of a condition. -/
  | between
  /-- The `AND` of a `BETWEEN`. -/
  | betweenAnd
  /-- A new condition. -/
  | condition
deriving DecidableEq, Repr

/-- The place of a token in the line structure. -/
def breakBefore (o : Options) (s : State) (last t : Token) : Break :=
  if !o.reindent || s.depthAt t != 0 then .stay
  else if last.lexClass = .semicolon then .statement
  else if isClauseStart last t then .clause
  else if s.inWhere && t.lexClass == .keyword .BETWEEN then .between
  else if s.inWhere && t.lexClass == .keyword .AND && s.betweenOpen then .betweenAnd
  else if s.inWhere && (t.lexClass == .keyword .AND || t.lexClass == .keyword .OR) then .condition
  else .stay

/-- The white space written before a token. -/
def separator (o : Options) (s : State) (t : Token) : String :=
  match s.last with
  | none => ""
  | some last =>
    match breakBefore o s last t with
    | .statement => "\n\n"
    | .clause => "\n"
    | .condition => "\n" ++ String.ofList (List.replicate o.indentWidth.toNat ' ')
    | .stay | .between | .betweenAnd => inlineSeparator s.gap last t

/-- What is known after a token. -/
def State.after (o : Options) (s : State) (t : Token) : State :=
  let place : Break :=
    match s.last with
    | none => .stay
    | some last => breakBefore o s last t
  { last := some t
    gap := false
    depth := if t.lexClass = .openParen then s.depthAt t + 1 else s.depthAt t
    inWhere :=
      match place with
      | .statement => false
      | .clause => t.lexClass == .keyword .WHERE
      | _ => s.inWhere
    betweenOpen :=
      match place with
      | .between => true
      | .betweenAnd => false
      | _ => s.betweenOpen }

/-! ### Formatting -/

/-- The text of the tokens from a state on. -/
def layoutFrom (o : Options) : State → List Token → List Char
  | _, [] => []
  | s, t :: ts =>
    if t.lexClass = .whitespace then layoutFrom o { s with gap := true } ts
    else (separator o s t).toList ++ (o.textOf t).toList ++ layoutFrom o (s.after o t) ts

/-- The text of the tokens with white space chosen anew. -/
def layout (o : Options) (ts : List Token) : String :=
  String.ofList (Text.trimList (layoutFrom o {} ts))

/-- The text of the tokens with only the spelling of keywords changed. -/
def recase (o : Options) (ts : List Token) : String := String.join (ts.map o.textOf)

/-- The formatted text.  Without any choice on white space only the spelling of keywords changes. -/
def format (o : Options) (sql : String) : Except MalformedSql String := do
  let ts ← balancedTokens sql
  return if o.reindent || o.stripWhitespace then layout o ts else recase o ts

end SqlOutline.Layout
