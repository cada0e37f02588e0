import SqlOutline.Markdown.Line
import SqlOutline.Text.Punctuation

/-!
# Links without markup

* `Autolink.angled?` : an address in angle brackets;
* `Autolink.plain?` : an address that stands bare in a text: a URL of a known scheme, a name that starts with
  `www.`, or a mail address.
-/

namespace SqlOutline.Markdown.Autolink

/-- Whether a character may stand before the `@` of a mail address. -/
def isMailChar (c : Char) : Bool :=
  c.isAlphanum || ".!#$%&'*+/=?^_\x60\x7b|\x7d~-".toList.contains c

/-- Whether a character may stand inside a part of a domain. -/
def isDomainChar (c : Char) : Bool := c.isAlphanum || c == '-'

/-- The longest part of a domain at the start of a text: at most 63 characters, with a letter or digit at
both ends. -/
def domainPart (cs : List Char) : List Char :=
  match cs with
  | c :: _ =>
    if c.isAlphanum then Text.dropEndWhile (· == '-') ((cs.take 63).takeWhile isDomainChar) else []
  | [] => []

/-- The further parts of a domain, each after a point. -/
def domainParts : (fuel : Nat) → List Char → List Char
  | 0, _ => []
  | fuel + 1, cs =>
    match cs with
    | '.' :: rest =>
      let part := domainPart rest
      if part = [] then [] else '.' :: part ++ domainParts fuel (rest.drop part.length)
    | _ => []

/-- The longest mail address at the start of a text. -/
def mail? (cs : List Char) : Option (List Char) :=
  let name := cs.takeWhile isMailChar
  match name, cs.dropWhile isMailChar with
  | _ :: _, '@' :: rest =>
    let part := domainPart rest
    if part = [] then none
    else some (name ++ '@' :: part ++ domainParts rest.length (rest.drop part.length))
  | _, _ => none

/-- The longest URL with any scheme at the start of a text. -/
def url? (cs : List Char) : Option (List Char) :=
  let scheme := cs.takeWhile fun c => c.isAlphanum || c == '.' || c == '+' || c == '-'
  match scheme, cs.drop scheme.length with
  | c :: _ :: _, ':' :: rest =>
    if c.isAlpha && decide (scheme.length ≤ 33) then
      some (scheme ++ ':' :: rest.takeWhile fun d => decide (0x20 < d.toNat) && d != '<' && d != '>')
    else none
  | _, _ => none

/-- What follows an address in angle brackets, from the character after the bracket on. -/
def angled? (cs : List Char) : Option (List Char) := do
  let address ← (mail? cs).or (url? cs)
  match cs.drop address.length with
  | '>' :: rest => some rest
  | _ => none

/-! ### Bare addresses -/

/-- Whether a character may stand in the host of a bare address. -/
def isHostChar (c : Char) : Bool := c.isAlphanum || "-@:%._+~#=".toList.contains c

/-- Whether a character may stand after the host of a bare address. -/
def isPathChar (dollar : Bool) (c : Char) : Bool :=
  c.isAlphanum || "-@:%_+.~#!?&/=();,'\">^\x7b\x7d[]\x60".toList.contains c || (dollar && c == '$')

/-- The length of the longest host at the start of a text.  It ends with a point and lower case letters, and
has at least one and at most 256 characters before that point; `seen` of them have been passed. -/
def hostLength : (budget seen : Nat) → List Char → Option Nat
  | 0, _, _ => none
  | _, _, [] => none
  | budget + 1, seen, c :: cs =>
    let here :=
      match c, cs with
      | '.', d :: _ => if seen ≠ 0 ∧ d.isLower then some (seen + 1 + (cs.takeWhile (·.isLower)).length) else none
      | _, _ => none
    if isHostChar c then (hostLength budget (seen + 1) cs).or here else here

/-- The part of a bare address from its host on. -/
def hostAndPath? (numbered dollar : Bool) (cs : List Char) : Option (List Char) := do
  let n ← hostLength 257 0 cs
  let host := cs.take n
  let rest := cs.drop n
  let number :=
    match rest with
    | ':' :: digits => if numbered then digits.takeWhile (·.isDigit) else []
    | _ => []
  let (host, rest) :=
    if number = [] then (host, rest) else (host ++ ':' :: number, rest.drop (number.length + 1))
  match rest with
  | c :: path =>
    if c = '/' ∨ c = '#' ∨ c = '?' then some (host ++ c :: path.takeWhile (isPathChar dollar)) else some host
  | [] => some host

/-- The longest bare address at the start of a text, before its end is looked at. -/
def bare? (cs : List Char) : Option (List Char) :=
  let withScheme := ["https://", "http://", "ftp://"].findSome? fun scheme =>
    if scheme.toList.isPrefixOf cs then
      (hostAndPath? true true (cs.drop scheme.length)).map (scheme.toList ++ ·)
    else none
  withScheme.or
    (if "www.".toList.isPrefixOf cs then (hostAndPath? false false (cs.drop 4)).map ("www.".toList ++ ·)
     else none)

/-- A bare address without a final point, closing parentheses that it does not open, or an entity at its
end. -/
def dropLoose (address : List Char) : List Char :=
  match address.reverse with
  | '.' :: rest => rest.reverse
  | ')' :: _ =>
    let extra := address.count ')' - address.count '('
    address.take (address.length - extra)
  | ';' :: before =>
    let word := before.takeWhile (·.isAlphanum)
    match word, before.drop word.length with
    | _ :: _, '&' :: rest => rest.reverse
    | _, _ => address
  | _ => address

/-- A bare mail address.  Its domain has a point, and no hyphen or underscore follows it. -/
def bareMail? (cs : List Char) : Option (List Char) := do
  if cs.head?.any Text.isAsciiPunctuation then none
  let address ← mail? cs
  if !((address.dropWhile (· != '@')).dropLast.contains '.') then none
  match cs.drop address.length with
  | c :: _ => if c = '-' ∨ c = '_' then none else some address
  | [] => some address

/-- Whether a character is left out at the end of a bare address. -/
def isTrailing (c : Char) : Bool := "?!.,:*_~".toList.contains c

/-- The bare address at the start of a text. -/
def plain? (cs : List Char) : Option (List Char) := do
  let address ← ((bare? cs).map dropLoose).or (bareMail? cs)
  match address with
  | c :: rest => some (c :: Text.dropEndWhile isTrailing rest)
  | [] => none

end SqlOutline.Markdown.Autolink
