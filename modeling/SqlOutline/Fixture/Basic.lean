import SqlOutline.Files.Glob
import SqlOutline.Query
import SqlOutline.Export

/-!
# Fixtures

A fixture directory holds queries in `sql/NAME.sql` and the node that each of them should give in
`expected/NAME.json`.

* `Fixture.Case` : a query with its expectation;
* `Fixture.scan`, `Fixture.load` : the cases of a directory, without and with the demand that every case has
  an expectation;
* `Fixture.run` : compares what the queries give with what is expected;
* `Fixture.writeExpected` : writes the expectations anew.
-/

namespace SqlOutline.Fixture

/-- A query with its expectation. -/
structure Case where
  /-- The name of the query file without its ending. -/
  name : String
  /-- Where the query is. -/
  sqlPath : Path
  /-- Where the expectation belongs. -/
  expectedPath : Path
  /-- The query. -/
  sql : String
  /-- The expected node, when there is one. -/
  expected : Option Node

/-- Why the fixtures of a directory cannot be used. -/
inductive FixtureError where
  /-- The name of the directory is no pattern. -/
  | badPattern
  /-- There are no queries. -/
  | noCases (dir : String)
  /-- A file cannot be read. -/
  | unreadable (path : Path)
  /-- A case has no expectation. -/
  | expectedNotFound (path : Path)
  /-- An expectation holds no node. -/
  | badExpectation (path : Path) (e : ReadError)
  /-- The directory of the expectations cannot be made. -/
  | noDirectory
  /-- A query gives no node. -/
  | badQuery (name : String) (e : QueryError)
  /-- The node of a query has no document. -/
  | unencodable (e : WriteError)
  /-- A file cannot be written. -/
  | unwritable (path : Path)

/-- The wording of a fixture error. -/
def FixtureError.message : FixtureError → String
  | badPattern => "failed to list fixtures"
  | noCases dir => "no fixture cases found: " ++ dir
  | unreadable path => "failed to read " ++ path.render
  | expectedNotFound path => "expected output not found: " ++ path.render
  | badExpectation path e => "invalid expectation " ++ path.render ++ ": " ++ e.message
  | noDirectory => "failed to create expected directory"
  | badQuery name e => "fixture " ++ name ++ ": " ++ e.message
  | unencodable e => e.message
  | unwritable path => "failed to write " ++ path.render

/-- The path of a fixture directory. -/
def base (dir : String) : Path := (Path.parse dir).clean

/-- The name of a query file without its ending. -/
def caseName (fileName : String) : String :=
  let cs := fileName.toList
  if ".sql".toList.isSuffixOf cs then String.ofList (cs.take (cs.length - 4)) else fileName

/-- The expectation at a path; a file that is not there is no error. -/
def readExpected (files : Files) (path : Path) : Except FixtureError (Option Node) :=
  match files.read path with
  | .error .missing => .ok none
  | .error _ => .error (.unreadable path)
  | .ok data =>
    match readNode .json data with
    | .ok node => .ok (some node)
    | .error e => .error (.badExpectation path e)

/-- The case of a query file. -/
def readCase (files : Files) (dir : String) (path : Path) : Except FixtureError Case :=
  match files.read path with
  | .error _ => .error (.unreadable path)
  | .ok sql => do
    let name := caseName path.name
    let expectedPath := ((base dir).child "expected").child (name ++ ".json")
    let expected ← readExpected files expectedPath
    return ⟨name, path, expectedPath, sql, expected⟩

/-- The cases of a directory in the order of the paths of their queries. -/
def scan (files : Files) (dir : String) : Except FixtureError (List Case) :=
  match files.glob (((base dir).child "sql").child "*.sql") with
  | none => .error .badPattern
  | some [] => .error (.noCases dir)
  | some paths => (paths.mergeSort fun a b => decide (a.render ≤ b.render)).mapM (readCase files dir)

/-- The cases of a directory, each of which must have an expectation. -/
def load (files : Files) (dir : String) : Except FixtureError (List Case) := do
  let cases ← scan files dir
  match cases.find? (·.expected.isNone) with
  | some c => throw (.expectedNotFound c.expectedPath)
  | none => return cases

/-! ### Running -/

/-- Why a case fails. -/
inductive CaseError where
  /-- The query gives no node. -/
  | badQuery (e : QueryError)
  /-- The case has no expectation. -/
  | expectedNotFound (path : Path)
  /-- The node differs from the expected one. -/
  | mismatch (name : String)

/-- The wording of a case error. -/
def CaseError.message : CaseError → String
  | badQuery e => e.message
  | expectedNotFound path => "expected output not found: " ++ path.render
  | mismatch name => "tree does not match expected output: " ++ name

/-- The outcome of a case. -/
structure Result where
  /-- The name of the case. -/
  name : String
  /-- The node of the query, empty when there is none. -/
  actual : Node
  /-- Why the case failed. -/
  error : Option CaseError

/-- Whether a case passed. -/
def Result.success (r : Result) : Bool := r.error.isNone

/-- Runs one case. -/
def Case.run (c : Case) (normalizing : Bool) : Result :=
  match buildNode c.sql normalizing with
  | .error e => ⟨c.name, .empty, some (.badQuery e)⟩
  | .ok actual =>
    match c.expected with
    | none => ⟨c.name, actual, some (.expectedNotFound c.expectedPath)⟩
    | some expected => ⟨c.name, actual, if expected == actual then none else some (.mismatch c.name)⟩

/-- The outcomes of a run. -/
structure Summary where
  /-- The outcomes, in the order of the cases. -/
  results : List Result := []
  /-- How long the run took, in milliseconds. -/
  milliseconds : Nat := 0

/-- The number of cases. -/
def Summary.total (s : Summary) : Nat := s.results.length

/-- The number of cases that passed. -/
def Summary.passed (s : Summary) : Nat := s.results.countP (·.success)

/-- The number of cases that failed. -/
def Summary.failed (s : Summary) : Nat := s.results.countP (!·.success)

/-- Runs all cases. -/
def run (cases : List Case) (normalizing : Bool) : Summary := { results := cases.map (·.run normalizing) }

/-! ### Writing expectations -/

/-- What has been written. -/
structure Written where
  /-- The files afterwards. -/
  files : Files
  /-- The names of the cases whose expectation has been written. -/
  names : List String := []
  /-- The paths of the expectations that have been written. -/
  paths : List Path := []
  /-- Why writing stopped. -/
  error : Option FixtureError := none

/-- Writes the expectations of cases one after the other, and stops at the first one that fails. -/
def writeCases (normalizing : Bool) (files : Files) : List Case → Written
  | [] => { files }
  | c :: cs =>
    match buildNode c.sql normalizing with
    | .error e => { files, error := some (.badQuery c.name e) }
    | .ok node =>
      match writeNode .json true node with
      | .error e => { files, error := some (.unencodable e) }
      | .ok text =>
        match files.write c.expectedPath text with
        | .error _ => { files, error := some (.unwritable c.expectedPath) }
        | .ok files =>
          let rest := writeCases normalizing files cs
          { rest with names := c.name :: rest.names, paths := c.expectedPath :: rest.paths }

/-- Writes the expectation of every query of a directory. -/
def writeExpected (files : Files) (dir : String) (normalizing : Bool) : Written :=
  match scan files dir with
  | .error e => { files, error := some e }
  | .ok cases =>
    match files.makeDirs ((base dir).child "expected") with
    | .error _ => { files, error := some .noDirectory }
    | .ok files => writeCases normalizing files cases

end SqlOutline.Fixture
