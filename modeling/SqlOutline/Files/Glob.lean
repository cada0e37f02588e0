import SqlOutline.Files.Tree

/-!
# Path patterns

In a pattern `*` stands for any text inside a part, `?` for one character, brackets for one character of a
class, and a backslash takes the character after it as it is.

* `Glob.Item` : what a pattern is made of;
* `Glob.parse` : reads the pattern of one part of a path, `none` when it is not well formed;
* `Glob.accepts` : whether a pattern stands for a name;
* `Files.glob` : the paths that a path of patterns stands for.
-/

namespace SqlOutline.Glob

/-- An item of a pattern. -/
inductive Item where
  /-- The character itself. -/
  | char (c : Char)
  /-- One character of the ranges, or of none of them. -/
  | oneOf (negated : Bool) (ranges : List (Char × Char))
  /-- Any character. -/
  | any
  /-- Any text. -/
  | star
deriving DecidableEq, Repr

/-- A character of a class, which may have a backslash before it. -/
def classChar? : List Char → Option (Char × List Char)
  | [] => none
  | '-' :: _ => none
  | ']' :: _ => none
  | '\\' :: c :: cs => some (c, cs)
  | '\\' :: [] => none
  | c :: cs => some (c, cs)

/-- The ranges of a class up to its closing bracket; there is at least one. -/
def ranges? : (fuel : Nat) → List Char → Option (List (Char × Char) × List Char)
  | 0, _ => none
  | fuel + 1, cs => do
    let (lo, rest) ← classChar? cs
    let (hi, rest) ←
      match rest with
      | '-' :: rest => classChar? rest
      | _ => some (lo, rest)
    match rest with
    | ']' :: rest => return ([(lo, hi)], rest)
    | _ =>
      let (ranges, rest) ← ranges? fuel rest
      return ((lo, hi) :: ranges, rest)

/-- Reads the items of a pattern. -/
def items? : (fuel : Nat) → List Char → Option (List Item)
  | _, [] => some []
  | 0, _ => none
  | fuel + 1, c :: cs =>
    if c = '*' then (items? fuel cs).map (.star :: ·)
    else if c = '?' then (items? fuel cs).map (.any :: ·)
    else if c = '\\' then
      match cs with
      | [] => none
      | d :: ds => (items? fuel ds).map (.char d :: ·)
    else if c = '[' then do
      let (negated, body) :=
        match cs with
        | '^' :: body => (true, body)
        | _ => (false, cs)
      let (ranges, rest) ← ranges? body.length body
      let items ← items? fuel rest
      return .oneOf negated ranges :: items
    else (items? fuel cs).map (.char c :: ·)

/-- Reads the pattern of one part of a path. -/
def parse (part : String) : Option (List Item) := items? part.toList.length part.toList

/-- Whether a text has a character with a meaning of its own in patterns. -/
def hasSpecial (part : String) : Bool := part.toList.any fun c => ['*', '?', '[', '\\'].contains c

/-- Whether an item stands for a character. -/
def Item.admits (c : Char) : Item → Bool
  | char d => c == d
  | oneOf negated ranges => ranges.any (fun (lo, hi) => decide (lo ≤ c) && decide (c ≤ hi)) != negated
  | any => true
  | star => false

/-- Whether the items stand for the characters. -/
def accepts : List Item → List Char → Bool
  | [], cs => cs.isEmpty
  | .star :: items, [] => accepts items []
  | .star :: items, c :: cs => accepts items (c :: cs) || accepts (.star :: items) cs
  | _ :: _, [] => false
  | item :: items, c :: cs => item.admits c && accepts items cs
termination_by items cs => items.length + cs.length

end SqlOutline.Glob

namespace SqlOutline.Files

/-- The paths below a directory that patterns stand for, in the order of the names on every level. -/
def globFrom (files : Files) (base : Path) : List (List Glob.Item) → List Path
  | [] => [base]
  | pattern :: patterns =>
    match files.find base with
    | .ok (.directory members) =>
      let names := (members.map (·.1)).mergeSort (fun a b => decide (a ≤ b))
      (names.filter fun name => Glob.accepts pattern name.toList).flatMap fun name =>
        globFrom files (base.child name) patterns
    | _ => []

/-- The paths that a path of patterns stands for, or `none` when a pattern is not well formed.  Parts before
the first special character are taken as they are. -/
def glob (files : Files) (p : Path) : Option (List Path) :=
  let plain := p.parts.takeWhile (!Glob.hasSpecial ·)
  let special := p.parts.dropWhile (!Glob.hasSpecial ·)
  (special.mapM Glob.parse).map fun patterns => files.globFrom ⟨p.rooted, plain⟩ patterns

end SqlOutline.Files
