import SqlOutline.Piece.Basic

/-!
# Kinds of outline elements

The closed set of categories that an outline shows.

* `Kind` : the categories of leaves, then those of groups;
* `Kind.name`, `Kind.ofName?` : their tags;
* `Kind.ofLexClass`, `Kind.ofGroup` : the category of a token and of a group.
-/

namespace SqlOutline

/-- A category of outline elements. -/
inductive Kind where
  | keyword | dml | ddl | cte | name | wildcard | string | number | operator | comparisonOperator
  | punctuation | comment | whitespace | placeholder | unknown
  | statement | parenthesis | subselect | function | identifier | identifierList | comparison
  | operation | whereClause | caseExpression
deriving DecidableEq, Repr

namespace Kind

/-- Every kind, in the order of its number. -/
def all : List Kind :=
  [keyword, dml, ddl, cte, name, wildcard, string, number, operator, comparisonOperator,
    punctuation, comment, whitespace, placeholder, unknown,
    statement, parenthesis, subselect, function, identifier, identifierList, comparison,
    operation, whereClause, caseExpression]

/-- The tag of a kind. -/
def tag : Kind → String
  | keyword => "Keyword"
  | dml => "DML"
  | ddl => "DDL"
  | cte => "CTE"
  | name => "Name"
  | wildcard => "Wildcard"
  | string => "String"
  | number => "Number"
  | operator => "Operator"
  | comparisonOperator => "ComparisonOperator"
  | punctuation => "Punctuation"
  | comment => "Comment"
  | whitespace => "Whitespace"
  | placeholder => "Placeholder"
  | unknown => "Unknown"
  | statement => "Statement"
  | parenthesis => "Parenthesis"
  | subselect => "Subselect"
  | function => "Function"
  | identifier => "Identifier"
  | identifierList => "IdentifierList"
  | comparison => "Comparison"
  | operation => "Operation"
  | whereClause => "Where"
  | caseExpression => "Case"

/-- Every kind is listed. -/
theorem mem_all (k : Kind) : k ∈ all := by
  cases k <;> decide

/-- The number of a kind. -/
def index (k : Kind) : Nat := all.idxOf k

/-- The kind with a given tag. -/
def ofTag? (tag : String) : Option Kind := all.find? (·.tag == tag)

/-- The kind with a given number; other numbers are of no known kind. -/
def ofNumber : Int → Kind
  | .ofNat n => all[n]?.getD unknown
  | .negSucc _ => unknown

/-- Whether elements of the kind have elements of their own. -/
def isGroup : Kind → Bool
  | statement | parenthesis | subselect | function | identifier | identifierList | comparison
  | operation | whereClause | caseExpression => true
  | _ => false

/-- The kind of a token. -/
def ofLexClass : LexClass → Kind
  | .keyword .SELECT | .keyword .INSERT | .keyword .UPDATE | .keyword .DELETE => dml
  | .keyword .CREATE | .keyword .ALTER | .keyword .DROP => ddl
  | .keyword .WITH => cte
  | .keyword .LIKE => comparisonOperator
  | .keyword _ | .reservedWord | .boolean => keyword
  | .identifier | .quotedIdentifier => name
  | .wildcard => wildcard
  | .string => string
  | .number => number
  | .placeholder => placeholder
  | .whitespace => whitespace
  | .lineComment | .blockComment => comment
  | .openParen | .closeParen | .comma | .semicolon | .dot => punctuation
  | .plus | .minus | .star | .slash | .percent | .concat | .doubleColon => operator
  | .equal | .notEqual | .less | .greater | .lessEqual | .greaterEqual => comparisonOperator
  | .endOfText | .other => unknown

/-- The kind of a group. -/
def ofGroup : GroupKind → Kind
  | .statement => statement
  | .parenthesis => parenthesis
  | .function => function
  | .identifier => identifier
  | .identifierList => identifierList
  | .comparison => comparison
  | .operation => operation
  | .whereClause => whereClause
  | .caseExpression => caseExpression

end Kind

end SqlOutline
