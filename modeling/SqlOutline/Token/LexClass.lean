import SqlOutline.Token.Keyword
import SqlOutline.Text.LetterCase

/-!
# Lexical classes

The class of a token, and the class that a word has.

* `LexClass` : the lexical classes;
* `LexClass.name`, `LexClass.all` : their tags, and the classes in the order of their numbers;
* `LexClass.isKeyword`, `LexClass.isComparison`, `LexClass.isArithmetic`, `LexClass.isTrivia` : families
  of classes;
* `LexClass.ofWord` : a word is a keyword, a truth value, a reserved word or an identifier.
-/

namespace SqlOutline

/-- The lexical class of a token. -/
inductive LexClass where
  /-- The end of the scanned text. -/
  | endOfText
  /-- A run of white space. -/
  | whitespace
  /-- A name without quotes. -/
  | identifier
  /-- A name between double quotes or backquotes. -/
  | quotedIdentifier
  /-- A reserved word without a class of its own. -/
  | reservedWord
  /-- A text literal. -/
  | string
  /-- A numeric literal. -/
  | number
  /-- A truth value. -/
  | boolean
  /-- A parameter: a question mark, or a name or number after a dollar sign or colon. -/
  | placeholder
  | openParen | closeParen | comma | semicolon | dot
  | equal | notEqual | less | greater | lessEqual | greaterEqual
  | plus | minus | star | slash | percent | concat | doubleColon
  /-- A star that stands for all columns; the scanner never produces it, grouping does. -/
  | wildcard
  /-- A keyword with rules of its own. -/
  | keyword (word : Keyword)
  | lineComment | blockComment
  /-- Any other character. -/
  | other
deriving DecidableEq, Repr

namespace LexClass

/-- Every class, in the order of its number. -/
def all : List LexClass :=
  [endOfText, whitespace, identifier, quotedIdentifier, reservedWord, string, number, boolean,
    placeholder, openParen, closeParen, comma, semicolon, dot,
    equal, notEqual, less, greater, lessEqual, greaterEqual,
    plus, minus, star, slash, percent, concat, doubleColon, wildcard]
  ++ Keyword.all.map keyword ++ [lineComment, blockComment, other]

/-- The tag of a class. -/
def name : LexClass → String
  | endOfText => "EOF"
  | whitespace => "WHITESPACE"
  | identifier => "IDENTIFIER"
  | quotedIdentifier => "QUOTED_IDENTIFIER"
  | reservedWord => "RESERVED_IDENTIFIER"
  | string => "STRING"
  | number => "NUMBER"
  | boolean => "BOOLEAN"
  | placeholder => "PLACEHOLDER"
  | openParen => "OPENED_PARENS"
  | closeParen => "CLOSED_PARENS"
  | comma => "COMMA"
  | semicolon => "SEMICOLON"
  | dot => "DOT"
  | equal => "EQUAL"
  | notEqual => "NOT_EQUAL"
  | less => "LESS_THAN"
  | greater => "GREATER_THAN"
  | lessEqual => "LESS_EQUAL"
  | greaterEqual => "GREATER_EQUAL"
  | plus => "PLUS"
  | minus => "MINUS"
  | star => "MULTIPLY"
  | slash => "DIVIDE"
  | percent => "MODULO"
  | concat => "CONCAT"
  | doubleColon => "DOUBLE_COLON"
  | wildcard => "WILDCARD"
  | keyword k => k.name
  | lineComment => "LINE_COMMENT"
  | blockComment => "BLOCK_COMMENT"
  | other => "OTHER"

/-- The class with a given tag. -/
def ofName? (tag : String) : Option LexClass := all.find? (·.name == tag)

/-- The class with a given number. -/
def ofNumber? : Int → Option LexClass
  | .ofNat n => all[n]?
  | .negSucc _ => none

/-- Whether the class holds words that the language reserves. -/
def isKeyword : LexClass → Bool
  | reservedWord | boolean | keyword _ => true
  | _ => false

/-- Whether the class compares two operands. -/
def isComparison : LexClass → Bool
  | equal | notEqual | less | greater | lessEqual | greaterEqual | keyword .LIKE => true
  | _ => false

/-- Whether the class is a binary operator on values. -/
def isArithmetic : LexClass → Bool
  | plus | minus | star | slash | percent | concat => true
  | _ => false

/-- Whether the class carries no meaning: white space and comments. -/
def isTrivia : LexClass → Bool
  | whitespace | lineComment | blockComment => true
  | _ => false

/-- The class of a word, which is decided by its upper case form. -/
def ofWord (word : String) : LexClass :=
  let spelling := Text.upper word
  match Keyword.ofName? spelling with
  | some k => keyword k
  | none =>
    if spelling == "TRUE" || spelling == "FALSE" then boolean
    else if reservedWords.contains spelling then reservedWord
    else identifier

end LexClass

end SqlOutline
