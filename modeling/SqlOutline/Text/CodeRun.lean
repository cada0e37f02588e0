import SqlOutline.Text.Space

/-!
# Runs of code points

A property of all code points is given by runs: words that name a value of the property, each followed by the
number of code points in a row that have it.

* `Text.CodeRun`, `Text.readRuns` : a run, and the runs that lines of words write;
* `Text.valueAt` : the value of the property at a code point.
-/

namespace SqlOutline.Text

/-- Code points in a row that have the same value of a property. -/
structure CodeRun where
  /-- The name of the value. -/
  value : String
  /-- The number of code points. -/
  length : Nat
deriving DecidableEq, Repr

/-- The run that a word writes: a name and the number after it. -/
def CodeRun.ofWord (word : String) : CodeRun :=
  let cs := word.toList
  { value := String.ofList (cs.takeWhile (!·.isDigit))
    length := (cs.dropWhile (!·.isDigit)).foldl (fun n c => n * 10 + (c.toNat - 48)) 0 }

/-- The runs that lines of words write. -/
def readRuns (lines : List String) : List CodeRun := lines.flatMap fun line => (words line).map CodeRun.ofWord

/-- The value of a property at a code point; empty beyond the last run. -/
def valueAt : List CodeRun → Nat → String
  | [], _ => ""
  | r :: rs, n => if n < r.length then r.value else valueAt rs (n - r.length)

/-- Behind a run its code points no longer count. -/
theorem valueAt_cons_add (r : CodeRun) (rs : List CodeRun) (n : Nat) :
    valueAt (r :: rs) (r.length + n) = valueAt rs n := by
  have h : ¬ r.length + n < r.length := by omega
  have e : r.length + n - r.length = n := by omega
  rw [valueAt, if_neg h, e]

end SqlOutline.Text
