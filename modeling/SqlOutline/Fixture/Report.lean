import SqlOutline.Fixture.Basic
import SqlOutline.Text.Style

/-!
# Fixture reports

The report of a run of fixtures: the numbers first, then the cases that failed, and in the detailed form also
those that passed.
-/

namespace SqlOutline.Fixture

/-- A duration in seconds with three places. -/
def duration (milliseconds : Nat) : String :=
  let places := toString (milliseconds % 1000)
  toString (milliseconds / 1000) ++ "." ++ String.ofList (List.replicate (3 - places.length) '0') ++ places
    ++ "s"

/-- The lines about one case. -/
def Result.report (color verbose : Bool) (r : Result) : String :=
  match r.error with
  | none => if verbose then Text.paint color .good ("  ✅ " ++ r.name) ++ "\n" else ""
  | some e =>
    Text.paint color .bad ("  ❌ " ++ r.name) ++ "\n    Error: " ++ e.message ++ "\n"

/-- The report of a run. -/
def Summary.report (color verbose : Bool) (s : Summary) : String :=
  "\n" ++ Text.paint color .label "=== Fixture Summary ===" ++ "\n"
    ++ "Fixtures: " ++ toString s.total ++ " total, "
    ++ Text.paint color .good (toString s.passed ++ " passed") ++ ", "
    ++ Text.paint color .bad (toString s.failed ++ " failed") ++ "\n"
    ++ "Duration: " ++ duration s.milliseconds ++ "\n"
    ++ String.join (s.results.map (·.report color verbose))
    ++ (if s.failed = 0 then Text.paint color .good "\nAll fixtures passed! ✅"
        else Text.paint color .bad "\nSome fixtures failed! ❌") ++ "\n"

end SqlOutline.Fixture
