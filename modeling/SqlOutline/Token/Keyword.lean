/-!
# SQL keywords

The keywords that have a class of their own, and the further words that are reserved without one.

* `Keyword` : the keywords that the grouping and layout rules tell apart;
* `Keyword.name` : the SQL spelling of a keyword;
* `reservedWords` : the words that are reserved but treated alike.
-/

namespace SqlOutline

/-- A keyword that the grouping and layout rules tell apart. -/
inductive Keyword where
  | SELECT | INSERT | UPDATE | DELETE | CREATE | ALTER | DROP | WITH
  | FROM | WHERE | GROUP | ORDER | BY | HAVING | LIMIT | OFFSET | UNION | EXCEPT | INTERSECT | ALL
  | DISTINCT | AS | INTO | VALUES | SET | RETURNING | JOIN | ON | USING
  | AND | OR | NOT | IN | EXISTS | BETWEEN | LIKE | IS | NULL | CASE | WHEN | THEN | ELSE | END
deriving DecidableEq, Repr

namespace Keyword

/-- Every keyword, statement keywords first, then clause keywords, then operators and conditionals. -/
def all : List Keyword := [
  SELECT, INSERT, UPDATE, DELETE, CREATE, ALTER, DROP, WITH,
  FROM, WHERE, GROUP, ORDER, BY, HAVING, LIMIT, OFFSET, UNION, EXCEPT, INTERSECT, ALL,
  DISTINCT, AS, INTO, VALUES, SET, RETURNING, JOIN, ON, USING,
  AND, OR, NOT, IN, EXISTS, BETWEEN, LIKE, IS, NULL, CASE, WHEN, THEN, ELSE, END]

/-- The SQL spelling of a keyword, in upper case. -/
def name : Keyword → String
  | SELECT => "SELECT" | INSERT => "INSERT" | UPDATE => "UPDATE" | DELETE => "DELETE"
  | CREATE => "CREATE" | ALTER => "ALTER" | DROP => "DROP" | WITH => "WITH"
  | FROM => "FROM" | WHERE => "WHERE" | GROUP => "GROUP" | ORDER => "ORDER" | BY => "BY"
  | HAVING => "HAVING" | LIMIT => "LIMIT" | OFFSET => "OFFSET" | UNION => "UNION"
  | EXCEPT => "EXCEPT" | INTERSECT => "INTERSECT" | ALL => "ALL" | DISTINCT => "DISTINCT"
  | AS => "AS" | INTO => "INTO" | VALUES => "VALUES" | SET => "SET" | RETURNING => "RETURNING"
  | JOIN => "JOIN" | ON => "ON" | USING => "USING" | AND => "AND" | OR => "OR" | NOT => "NOT"
  | IN => "IN" | EXISTS => "EXISTS" | BETWEEN => "BETWEEN" | LIKE => "LIKE" | IS => "IS"
  | NULL => "NULL" | CASE => "CASE" | WHEN => "WHEN" | THEN => "THEN" | ELSE => "ELSE"
  | END => "END"

/-- Every keyword is listed. -/
theorem mem_all (k : Keyword) : k ∈ all := by
  cases k <;> decide

/-- The keyword with a given upper case spelling. -/
def ofName? (word : String) : Option Keyword := all.find? (·.name == word)

end Keyword

/-- The words, in upper case, that are reserved in the common dialects and have no class of their own. -/
def reservedWords : List String := [
  "SHARE", "NO", "NOWAIT", "SKIP", "LOCKED", "FOR",
  "ASC", "CHECK", "CONSTRAINT", "CROSS", "CURRENT_DATE", "CURRENT_TIME", "CURRENT_TIMESTAMP",
  "DATABASE", "DEFAULT", "DESC", "FOREIGN", "FULL", "IF", "INDEX", "INNER", "KEY", "LEFT", "MATCH",
  "NATURAL", "OUTER", "PRIMARY", "REFERENCES", "RIGHT", "TABLE", "TO", "UNIQUE", "VIEW", "CONFLICT",
  "DO", "NOTHING",
  "SIMILAR", "ILIKE", "OVER", "PARTITION", "RANGE", "ROWS", "UNBOUNDED", "PRECEDING", "FOLLOWING",
  "CURRENT", "ROW", "WINDOW", "LATERAL", "ONLY", "RECURSIVE",
  "REGEXP", "XOR", "SHOW", "TRIGGER", "UNLOCK", "MOD", "DIV", "LOCK", "STRAIGHT_JOIN", "IGNORE",
  "PRAGMA", "TEMPORARY", "TEMP"]

end SqlOutline
