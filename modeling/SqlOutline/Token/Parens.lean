import SqlOutline.Token.Scan

/-!
# Balanced parentheses

Grouping and layout both ask for a text whose tokens can be scanned and whose parentheses match.

* `ParenError` : a closing parenthesis without an opening one, or the other way round;
* `Token.checkParens` : the stack check on a token list;
* `MalformedSql` : why a text is refused;
* `balancedTokens` : the tokens of a text that is accepted.
-/

namespace SqlOutline

/-- A parenthesis without its partner. -/
inductive ParenError where
  /-- A closing parenthesis before which all opening ones are closed. -/
  | unmatchedClose (pos : Position)
  /-- An opening parenthesis that is never closed. -/
  | unmatchedOpen (pos : Position)
deriving DecidableEq, Repr

/-- The wording of a parenthesis error. -/
def ParenError.message : ParenError → String
  | .unmatchedClose pos => "unmatched close parenthesis at " ++ pos.render
  | .unmatchedOpen pos => "unmatched open parenthesis at " ++ pos.render

/-- Checks the rest of a token list with the places of the parentheses that are still open, the latest
one first. -/
def Token.checkParensFrom : (opened : List Position) → List Token → Except ParenError Unit
  | [], [] => .ok ()
  | pos :: _, [] => .error (.unmatchedOpen pos)
  | opened, t :: ts =>
    match t.lexClass with
    | .openParen => checkParensFrom (t.pos :: opened) ts
    | .closeParen =>
      match opened with
      | [] => .error (.unmatchedClose t.pos)
      | _ :: opened => checkParensFrom opened ts
    | _ => checkParensFrom opened ts

/-- Checks that all parentheses of a token list match. -/
def Token.checkParens (ts : List Token) : Except ParenError Unit := checkParensFrom [] ts

/-- Why a text is refused before any statement is looked at. -/
inductive MalformedSql where
  /-- A token cannot be completed. -/
  | scan (e : ScanError)
  /-- The parentheses do not match. -/
  | parens (e : ParenError)
deriving DecidableEq, Repr

/-- The wording of a refusal. -/
def MalformedSql.message : MalformedSql → String
  | .scan e => "failed to tokenize SQL: " ++ e.message
  | .parens e => e.message

/-- The tokens of a text whose tokens are complete and whose parentheses match. -/
def balancedTokens (sql : String) : Except MalformedSql (List Token) :=
  match Scan.tokenize sql with
  | .error e => .error (.scan e)
  | .ok ts =>
    match Token.checkParens ts with
    | .error e => .error (.parens e)
    | .ok () => .ok ts

end SqlOutline
