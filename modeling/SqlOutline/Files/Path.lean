/-!
# Paths

* `Path` : the parts of a path, and whether it starts at the root;
* `Path.parse`, `Path.render` : paths as texts, with `/` between the parts;
* `Path.clean` : drops the parts that stand for nothing, and lets `..` take back the part before it.
-/

namespace SqlOutline

/-- A path. -/
structure Path where
  /-- Whether the path starts at the root of all files. -/
  rooted : Bool := false
  /-- The parts between the slashes. -/
  parts : List String := []
deriving DecidableEq, Repr

namespace Path

/-- The parts of a text between the slashes. -/
def splitSlash : List Char → List (List Char)
  | [] => [[]]
  | c :: cs =>
    if c = '/' then [] :: splitSlash cs
    else
      match splitSlash cs with
      | [] => [[c]]
      | part :: parts => (c :: part) :: parts

/-- Reads a path, part by part. -/
def parse (text : String) : Path :=
  match text.toList with
  | [] => {}
  | '/' :: cs => ⟨true, (splitSlash cs).map String.ofList⟩
  | cs => ⟨false, (splitSlash cs).map String.ofList⟩

/-- The text of a path. -/
def render (p : Path) : String :=
  if p.rooted then "/" ++ "/".intercalate p.parts
  else if p.parts.isEmpty then "."
  else "/".intercalate p.parts

/-- Takes one more part after cleaned parts, the last of which comes first. -/
def push (rooted : Bool) (done : List String) (part : String) : List String :=
  if part = "" ∨ part = "." then done
  else if part = ".." then
    match done with
    | [] => if rooted then [] else [".."]
    | last :: rest => if last = ".." then ".." :: last :: rest else rest
  else part :: done

/-- A path without parts that stand for nothing. -/
def clean (p : Path) : Path :=
  ⟨p.rooted, (p.parts.foldl (push p.rooted) []).reverse⟩

/-- A path below another one. -/
def child (p : Path) (name : String) : Path := ⟨p.rooted, p.parts ++ [name]⟩

/-- The last part of a path. -/
def name (p : Path) : String := p.parts.getLast?.getD ""

/-- The end of a text from the last point on, if no slash comes after it. -/
def extension (text : String) : String :=
  let tail := (text.toList.reverse.takeWhile (· != '/')).takeWhile (· != '.')
  if (text.toList.reverse.drop tail.length).head? = some '.' then String.ofList ('.' :: tail.reverse)
  else ""

end Path

end SqlOutline
