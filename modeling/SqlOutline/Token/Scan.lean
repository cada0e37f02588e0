import SqlOutline.Token.Basic
import SqlOutline.Text.Letter
import SqlOutline.Text.DecimalDigit
import SqlOutline.Text.Space

/-!
# Scanning

A text is cut into tokens from left to right.  A step looks at the first character and the characters
after it and answers with a class and the number of further characters that belong to the token, so that
the tokens of a text are its consecutive slices.

* `Scan.lexeme` : the class and length of the first token of a text;
* `Scan.Options` : what to leave out and whether to change the case of words;
* `Scan.scan` : all tokens of a text, ended by an end-of-text token, or by the first error;
* `Scan.tokenize` : the tokens of a text that has no error, without the end-of-text token.

A NUL character ends the text.
-/

namespace SqlOutline

/-- What is wrong with a token that cannot be completed. -/
inductive ScanFault where
  /-- A text literal without its closing quote. -/
  | unterminatedString
  /-- A quoted name without its closing delimiter. -/
  | unterminatedIdentifier (delimiter : Char)
  /-- A block comment without its end. -/
  | unterminatedComment
  /-- An exponent mark without digits. -/
  | invalidExponent
deriving DecidableEq, Repr

/-- A token that cannot be completed, with the place where it starts. -/
structure ScanError where
  /-- What is wrong. -/
  fault : ScanFault
  /-- Where the token starts. -/
  pos : Position
deriving DecidableEq, Repr

/-- The wording of a scan error. -/
def ScanError.message (e : ScanError) : String :=
  let place := s!" at line {e.pos.line}, column {e.pos.column}"
  match e.fault with
  | .unterminatedString => "unterminated string literal: '" ++ place
  | .unterminatedIdentifier d => "unterminated quoted identifier: " ++ String.singleton d ++ place
  | .unterminatedComment => "unterminated block comment" ++ place
  | .invalidExponent => "invalid number format: invalid exponent" ++ place

namespace Scan

/-! ### Character classes -/

/-- Whether a word may start with the character. -/
def isWordStart (c : Char) : Bool := Text.isLetter c || c == '_'

/-- Whether a word may go on with the character. -/
def isWordPart (c : Char) : Bool :=
  Text.isLetter c || Text.isDecimalDigit c || c == '_' || c == '$'

/-- Whether the text starts with a character of the class. -/
def startsWith (p : Char → Bool) : List Char → Bool
  | c :: _ => p c
  | [] => false

/-- The number of leading characters of a class. -/
def run (p : Char → Bool) (cs : List Char) : Nat := (cs.takeWhile p).length

/-! ### Lengths of tokens -/

/-- The number of characters up to and including the delimiter that closes a quoted token.  A backslash
takes the next character with it, and a doubled delimiter stays inside. -/
def quotedLength (delimiter : Char) : List Char → Option Nat
  | [] => none
  | [c] => if c = delimiter then some 1 else none
  | c :: d :: rest =>
    if c = '\\' then (quotedLength delimiter rest).map (· + 2)
    else if c = delimiter then
      if d = delimiter then (quotedLength delimiter rest).map (· + 2) else some 1
    else (quotedLength delimiter (d :: rest)).map (· + 1)

/-- The number of characters up to and including the end of a block comment. -/
def commentLength : List Char → Option Nat
  | [] => none
  | [_] => none
  | c :: d :: rest =>
    if c = '*' ∧ d = '/' then some 2 else (commentLength (d :: rest)).map (· + 1)

/-- The length of the point and the digits after it, when digits follow the point. -/
def fractionLength : List Char → Nat
  | '.' :: rest => if startsWith Char.isDigit rest then 1 + run Char.isDigit rest else 0
  | _ => 0

/-- The length of the exponent, zero when there is none; `none` when the mark has no digits. -/
def exponentLength : List Char → Option Nat
  | c :: rest =>
    if c = 'e' ∨ c = 'E' then
      let sign := if startsWith (fun d => d == '+' || d == '-') rest then 1 else 0
      match run Char.isDigit (rest.drop sign) with
      | 0 => none
      | digits => some (1 + sign + digits)
    else some 0
  | [] => some 0

/-- The length of a numeric literal: digits, a fraction and an exponent. -/
def numberLength (cs : List Char) : Option Nat :=
  let whole := run Char.isDigit cs
  let fraction := fractionLength (cs.drop whole)
  (exponentLength (cs.drop (whole + fraction))).map (whole + fraction + ·)

/-! ### The first token of a text -/

/-- The class of the first token and the number of its characters after the first one. -/
abbrev Lexeme := Except ScanFault (LexClass × Nat)

/-- A quoted token, of the given class. -/
def quoted (delimiter : Char) (lexClass : LexClass) (fault : ScanFault) (cs : List Char) : Lexeme :=
  match quotedLength delimiter cs with
  | some n => .ok (lexClass, n)
  | none => .error fault

/-- A numeric literal that starts with the given character. -/
def number (c : Char) (cs : List Char) : Lexeme :=
  match numberLength (c :: cs) with
  | some n => .ok (.number, n - 1)
  | none => .error .invalidExponent

/-- A token of one character. -/
def single (lexClass : LexClass) : Lexeme := .ok (lexClass, 0)

/-- A token of two characters when the second one follows, else a token of one. -/
def pairOr (second : Char) (both alone : LexClass) (cs : List Char) : Lexeme :=
  if startsWith (· == second) cs then .ok (both, 1) else .ok (alone, 0)

/-- The first token of the text that starts with `c` and goes on with `cs`. -/
def lexeme (c : Char) (cs : List Char) : Lexeme :=
  match c with
  | '(' => single .openParen
  | ')' => single .closeParen
  | ',' => single .comma
  | ';' => single .semicolon
  | '.' => if startsWith Char.isDigit cs then number c cs else single .dot
  | '\'' => quoted c .string .unterminatedString cs
  | '"' => quoted c .quotedIdentifier (.unterminatedIdentifier c) cs
  | '\x60' => quoted c .quotedIdentifier (.unterminatedIdentifier c) cs
  | '-' =>
    if startsWith (· == '-') cs then .ok (.lineComment, run (· != '\n') cs) else single .minus
  | '/' =>
    match cs with
    | '*' :: rest =>
      match commentLength rest with
      | some n => .ok (.blockComment, n + 1)
      | none => .error .unterminatedComment
    | _ => single .slash
  | '=' => single .equal
  | '<' => if startsWith (· == '=') cs then .ok (.lessEqual, 1) else pairOr '>' .notEqual .less cs
  | '>' => pairOr '=' .greaterEqual .greater cs
  | '!' => pairOr '=' .notEqual .other cs
  | '|' => pairOr '|' .concat .other cs
  | ':' =>
    if startsWith isWordStart cs then .ok (.placeholder, run isWordPart cs)
    else pairOr ':' .doubleColon .other cs
  | '?' => single .placeholder
  | '$' =>
    if startsWith (fun d => d.isDigit || isWordStart d) cs then .ok (.placeholder, run isWordPart cs)
    else single .other
  | '+' => single .plus
  | '*' => single .star
  | '%' => single .percent
  | _ =>
    if Text.isSpace c then .ok (.whitespace, run Text.isSpace cs)
    else if isWordStart c then
      let n := run isWordPart cs
      .ok (.ofWord (String.ofList (c :: cs.take n)), n)
    else if c.isDigit then number c cs
    else single .other

/-! ### All tokens of a text -/

/-- What a scan leaves out and changes. -/
structure Options where
  /-- Leave out white space. -/
  skipWhitespace : Bool := false
  /-- Leave out comments. -/
  skipComments : Bool := false
  /-- Write identifiers and keywords in upper case. -/
  upperCase : Bool := false
deriving DecidableEq, Repr

/-- Whether tokens of the class are kept. -/
def Options.keeps (o : Options) : LexClass → Bool
  | .whitespace => !o.skipWhitespace
  | .lineComment | .blockComment => !o.skipComments
  | _ => true

/-- The text that a token is given. -/
def Options.textOf (o : Options) (lexClass : LexClass) (text : String) : String :=
  if o.upperCase && (lexClass == .identifier || lexClass.isKeyword) then Text.upper text else text

/-- The tokens up to the end of the text or the first error, and that error. -/
structure Result where
  /-- The tokens before the error, or all tokens and the end-of-text token. -/
  tokens : List Token
  /-- The error that ended the scan. -/
  error : Option ScanError := none
deriving DecidableEq, Repr

/-- The tokens of the characters from a place on. -/
def scanFrom (o : Options) (pos : Position) : List Char → Result
  | [] => ⟨[⟨.endOfText, "", pos⟩], none⟩
  | c :: cs =>
    match lexeme c cs with
    | .error fault => ⟨[], some ⟨fault, pos⟩⟩
    | .ok (lexClass, n) =>
      let slice := c :: cs.take n
      let rest := scanFrom o (pos.advance slice) (cs.drop n)
      if o.keeps lexClass then
        ⟨⟨lexClass, o.textOf lexClass (String.ofList slice), pos⟩ :: rest.tokens, rest.error⟩
      else rest
termination_by cs => cs.length
decreasing_by simp only [List.length_cons, List.length_drop]; omega

/-- The part of a text that is scanned: all characters before the first NUL. -/
def scanned (sql : String) : List Char := sql.toList.takeWhile (· != '\x00')

/-- The tokens of a text. -/
def scan (o : Options) (sql : String) : Result := scanFrom o .start (scanned sql)

/-- The first tokens of a scan; an error after them is not reached. -/
def Result.take (r : Result) (limit : Nat) : Result :=
  if limit ≤ r.tokens.length then ⟨r.tokens.take limit, none⟩ else r

/-- The tokens of a text without errors, without the end-of-text token. -/
def tokenize (sql : String) : Except ScanError (List Token) :=
  let r := scan {} sql
  match r.error with
  | some e => .error e
  | none => .ok r.tokens.dropLast

end Scan

end SqlOutline
