import SqlOutline.Text.LetterCase
import SqlOutline.Text.Quoted

/-!
# Keyword case

How keywords are spelled in formatted text.

* `KeywordCase` : the four spellings;
* `KeywordCase.apply` : spells a word;
* `KeywordCase.parse` : reads the name of a spelling.
-/

namespace SqlOutline

/-- How keywords are spelled. -/
inductive KeywordCase where
  | preserve | upper | lower | capitalize
deriving DecidableEq, Repr

namespace KeywordCase

/-- The name of a spelling. -/
def name : KeywordCase → String
  | preserve => "preserve"
  | upper => "upper"
  | lower => "lower"
  | capitalize => "capitalize"

/-- The spelling with exactly the given name. -/
def ofName? (name : String) : Option KeywordCase :=
  [preserve, upper, lower, capitalize].find? (·.name == name)

/-- A word in the given spelling. -/
def apply (k : KeywordCase) (word : String) : String :=
  match k with
  | preserve => word
  | upper => Text.upper word
  | lower => Text.lower word
  | capitalize =>
    match word.toList with
    | [] => ""
    | c :: cs => String.ofList (Text.upperChar c :: cs.map Text.lowerChar)

/-- A name that is no spelling. -/
structure UnknownCase where
  /-- The name. -/
  name : String
deriving DecidableEq, Repr

/-- The wording of the error. -/
def UnknownCase.message (e : UnknownCase) : String := "invalid keyword case: " ++ Text.quote e.name

/-- Reads the name of a spelling in any letter case; the empty name keeps keywords as they are. -/
def parse (name : String) : Except UnknownCase KeywordCase :=
  let key := Text.lower name
  if key == "" then .ok preserve
  else
    match ofName? key with
    | some k => .ok k
    | none => .error ⟨name⟩

end KeywordCase

end SqlOutline
