import SqlOutline.Text.Punctuation
import SqlOutline.Text.Space

/-!
# Emphasis

Runs of `*`, `_` and `~` open and close emphasis.  A run that finds its partner disappears, as far as it is
used up, and what is left of a run is text.

* `Run` : a run of marks;
* `Run.scan` : the run between two characters;
* `Run.uses` : how many marks a pair of runs uses up;
* `Span` : a stretch of text, or a run whose meaning is not yet known;
* `Span.visible` : the text of spans after all runs have found their partners.
-/

namespace SqlOutline.Markdown

/-- A run of equal marks. -/
structure Run where
  /-- The mark. -/
  mark : Char
  /-- The number of marks in the text. -/
  fullLength : Nat
  /-- The number of marks that are not used up. -/
  length : Nat
  /-- Whether emphasis may start here. -/
  canOpen : Bool
  /-- Whether emphasis may end here. -/
  canClose : Bool
deriving DecidableEq, Repr

namespace Run

/-- The run of `length` marks between two characters.  It may open before a word and close after one; inside
a word an underscore does neither. -/
def scan (mark : Char) (length : Nat) (before after : Char) : Run :=
  let left := !Text.isSpace after
    && (!Text.isPunctuation after || Text.isSpace before || Text.isPunctuation before)
  let right := !Text.isSpace before
    && (!Text.isPunctuation before || Text.isSpace after || Text.isPunctuation after)
  { mark, fullLength := length, length
    canOpen := if mark == '_' then left && (!right || Text.isPunctuation before) else left
    canClose := if mark == '_' then right && (!left || Text.isPunctuation after) else right }

/-- How many marks the pair of an opening and a closing run uses up.  A run that can both open and close does
not pair if the lengths add up to a multiple of three, unless both are multiples of three. -/
def uses (opener closer : Run) : Nat :=
  if (opener.canClose || closer.canOpen) && (opener.fullLength + closer.fullLength) % 3 == 0
      && closer.fullLength % 3 != 0 then 0
  else if opener.length ≥ 2 ∧ closer.length ≥ 2 then 2
  else 1

end Run

/-- A stretch of text, or a run whose meaning is not yet known. -/
inductive Span where
  | text (chars : List Char)
  | run (r : Run)
deriving DecidableEq, Repr

namespace Span

/-- The characters of a span that stays as it is. -/
def chars : Span → List Char
  | text cs => cs
  | run r => List.replicate r.length r.mark

/-- The span as text. -/
def settle (s : Span) : Span := text s.chars

/-- Looks backward for the run that a closing run pairs with.  The spans come last first; those between the
pair become text.  The result is the number of marks used up and the spans before the closing run. -/
def pair? (closer : Run) : List Span → Option (Nat × List Span)
  | [] => none
  | text cs :: rest => (pair? closer rest).map fun (used, spans) => (used, text cs :: spans)
  | run r :: rest =>
    let used := r.uses closer
    if r.canOpen && r.mark == closer.mark && used != 0 then
      some (used, if r.length ≤ used then rest else run { r with length := r.length - used } :: rest)
    else (pair? closer rest).map fun (used, spans) => (used, settle (run r) :: spans)

/-- Adds a run to the spans before it, which come last first, and pairs it as long as it can close. -/
def addRun : (fuel : Nat) → Run → List Span → List Span
  | 0, r, done => run r :: done
  | fuel + 1, r, done =>
    if r.canClose then
      match pair? r done with
      | some (used, done) =>
        if r.length ≤ used then done else addRun fuel { r with length := r.length - used } done
      | none => run r :: done
    else run r :: done

/-- The text of spans after all runs have found their partners. -/
def visible (spans : List Span) : List Char :=
  let paired := spans.foldl (fun done s =>
    match s with
    | text cs => text cs :: done
    | run r => addRun r.length r done) []
  paired.reverse.flatMap chars

end Span

end SqlOutline.Markdown
