import SqlOutline.Text.CaseVariant
import SqlOutline.Text.Category
import SqlOutline.Text.Script

/-!
# Regular expressions

* `CharSet` : sets of characters;
* `Regex` : regular expressions with anchors;
* `Regex.ends` : the places of a text that a match can reach from given places;
* `Regex.occursIn` : whether an expression matches somewhere in a text.

A match is followed as a set of places, so it never goes back and always ends.
-/

namespace SqlOutline

/-- A set of characters. -/
inductive CharSet where
  /-- The characters from the first to the last code point. -/
  | range (first last : Nat)
  /-- The characters of a general category, or of all categories with the same first letter. -/
  | category (name : String)
  /-- The characters of a script. -/
  | script (name : String)
  | union (a b : CharSet)
  | compl (a : CharSet)
  /-- The characters that are in the set up to letter case. -/
  | fold (a : CharSet)
deriving Repr

namespace CharSet

/-- Whether a set holds a character. -/
def contains : CharSet → Char → Bool
  | range first last, c => decide (first ≤ c.toNat) && decide (c.toNat ≤ last)
  | category name, c => Text.inCategory name c
  | script name, c => Text.script c == name
  | union a b, c => a.contains c || b.contains c
  | compl a, c => !a.contains c
  | fold a, c => (Text.caseVariants c).any fun d => a.contains d

/-- The characters from the first to the last. -/
def between (first last : Char) : CharSet := range first.toNat last.toNat

/-- The set of one character. -/
def single (c : Char) : CharSet := between c c

/-- The set of all characters. -/
def all : CharSet := range 0 0x10FFFF

/-- The empty set. -/
def empty : CharSet := compl all

/-- The set of the listed characters. -/
def ofList (cs : List Char) : CharSet := cs.foldr (fun c s => union (single c) s) empty

end CharSet

/-- A condition on a place of a text. -/
inductive Anchor where
  | textStart | textEnd | lineStart | lineEnd | wordBoundary | noWordBoundary
deriving DecidableEq, Repr

/-- A regular expression. -/
inductive Regex where
  /-- The empty text. -/
  | nothing
  /-- A character of a set. -/
  | one (set : CharSet)
  /-- A condition on the place. -/
  | anchor (a : Anchor)
  | seq (first second : Regex)
  | alt (first second : Regex)
  /-- At least `least` and, if given, at most `most` repetitions. -/
  | many (inner : Regex) (least : Nat) (most : Option Nat)
deriving Repr

namespace Regex

/-- Whether a character belongs to ASCII words. -/
def isWordChar (c : Char) : Bool := c.isAlphanum || c == '_'

/-- Whether a condition holds at a place. -/
def holdsAt (text : Array Char) (a : Anchor) (i : Nat) : Bool :=
  let before := i.pred
  let wordBefore := decide (0 < i) && (text[before]?.any isWordChar)
  let wordAfter := text[i]?.any isWordChar
  match a with
  | .textStart => i == 0
  | .textEnd => i == text.size
  | .lineStart => i == 0 || text[before]? == some '\n'
  | .lineEnd => i == text.size || text[i]? == some '\n'
  | .wordBoundary => wordBefore != wordAfter
  | .noWordBoundary => wordBefore == wordAfter

/-- The union of two lists of places. -/
def merge (a b : List Nat) : List Nat := a ++ b.filter (!a.contains ·)

/-- The places that any number of steps reach. -/
def closure (step : List Nat → List Nat) : (fuel : Nat) → List Nat → List Nat
  | 0, places => places
  | fuel + 1, places =>
    let next := merge places (step places)
    if next.length = places.length then places else closure step fuel next

/-- The places that a number of steps in a row reach. -/
def steps (step : List Nat → List Nat) : (count : Nat) → List Nat → List Nat
  | 0, places => places
  | count + 1, places => steps step count (step places)

/-- The places where a match that starts at one of the given places can end.  A repetition without a bound
reaches nothing new after as many rounds as there are places. -/
def ends (text : Array Char) : Regex → List Nat → List Nat
  | nothing, places => places
  | one set, places => places.filterMap fun i =>
    match text[i]? with
    | some c => if set.contains c then some (i + 1) else none
    | none => none
  | anchor a, places => places.filter (holdsAt text a)
  | seq first second, places => second.ends text (first.ends text places)
  | alt first second, places => merge (first.ends text places) (second.ends text places)
  | many inner least most, places =>
    let rounds :=
      match most with
      | some n => n - least
      | none => text.size + 1
    closure (fun ps => inner.ends text ps) rounds (steps (fun ps => inner.ends text ps) least places)

/-- Whether an expression matches somewhere in a text. -/
def occursIn (r : Regex) (s : String) : Bool :=
  let text := s.toList.toArray
  !(r.ends text (List.range (text.size + 1))).isEmpty

/-- Whether repetitions inside one another ask for at most `limit` copies of anything.  A repetition without an
upper bound counts by its lower one. -/
def fits : (limit : Nat) → Regex → Bool
  | limit, many inner least most =>
    let copies := most.getD least
    if most == some 0 then true
    else if limit < copies then false
    else inner.fits (if copies = 0 then limit else limit / copies)
  | limit, seq first second => first.fits limit && second.fits limit
  | limit, alt first second => first.fits limit && second.fits limit
  | _, _ => true

end Regex

end SqlOutline
