import SqlOutline.Files.Path

/-!
# Trees of files

The files that a program sees, as a value.

* `Entry` : a file with its content, or a directory with its members;
* `Entry.find`, `Entry.content` : what stands at a path, and the content of a file;
* `Entry.makeDirs`, `Entry.write` : the tree after directories have been made or a file has been written;
* `Entry.filesBelow` : all files with their paths;
* `Files` : a whole tree with a working directory, from which paths lead on.
-/

namespace SqlOutline

/-- A file, or a directory with its members by name. -/
inductive Entry where
  | file (content : String)
  | directory (members : List (String × Entry))
deriving Repr

/-- Why a path leads nowhere. -/
inductive FileFault where
  /-- There is nothing at the path. -/
  | missing
  /-- A file stands where a directory is needed. -/
  | notDirectory
  /-- A directory stands where a file is needed. -/
  | isDirectory
deriving DecidableEq, Repr

namespace Entry

/-- A directory without members. -/
def empty : Entry := directory []

/-- Replaces the member of a name, or adds it at the end. -/
def insertMember (name : String) (entry : Entry) : List (String × Entry) → List (String × Entry)
  | [] => [(name, entry)]
  | (other, e) :: rest =>
    if other = name then (name, entry) :: rest else (other, e) :: insertMember name entry rest

/-- What stands at a path below the entry. -/
def find : Entry → List String → Except FileFault Entry
  | here, [] => .ok here
  | file _, _ :: _ => .error .notDirectory
  | directory members, part :: parts =>
    match members.lookup part with
    | none => .error .missing
    | some entry => find entry parts

/-- What stands at a path that may hold parts without a name.  An empty part and `.` stay in a directory, and
`..` leads back to the directory passed before it. -/
def walk : (passed : List Entry) → Entry → List String → Except FileFault Entry
  | _, here, [] => .ok here
  | _, file _, _ :: _ => .error .notDirectory
  | passed, directory members, part :: parts =>
    if part = "" ∨ part = "." then walk passed (directory members) parts
    else if part = ".." then
      match passed with
      | [] => walk [] (directory members) parts
      | parent :: others => walk others parent parts
    else
      match members.lookup part with
      | none => .error .missing
      | some entry => walk (directory members :: passed) entry parts

/-- The names of the members of a directory. -/
def names : Entry → List String
  | file _ => []
  | directory members => members.map (·.1)

/-- The content of a file. -/
def content : Entry → Except FileFault String
  | file text => .ok text
  | directory _ => .error .isDirectory

/-- Makes the directories of a path that are missing. -/
def makeDirs : Entry → List String → Except FileFault Entry
  | here, [] =>
    match here with
    | file _ => .error .notDirectory
    | directory _ => .ok here
  | file _, _ :: _ => .error .notDirectory
  | directory members, part :: parts => do
    let inner ← makeDirs ((members.lookup part).getD empty) parts
    return directory (insertMember part inner members)

/-- Writes a file into a directory that must be there. -/
def write (text : String) : Entry → List String → Except FileFault Entry
  | file _, [] => .ok (file text)
  | directory _, [] => .error .isDirectory
  | file _, _ :: _ => .error .notDirectory
  | directory members, part :: parts =>
    match members.lookup part, parts with
    | some entry, parts => do
      let inner ← write text entry parts
      return directory (insertMember part inner members)
    | none, [] => .ok (directory (insertMember part (file text) members))
    | none, _ :: _ => .error .missing

mutual

/-- The files of an entry, each with the parts of its path below the entry. -/
def filesBelow (path : List String) : Entry → List (List String × String)
  | file text => [(path, text)]
  | directory members => membersBelow path members

/-- The files of the members of a directory. -/
def membersBelow (path : List String) : List (String × Entry) → List (List String × String)
  | [] => []
  | (name, entry) :: rest => filesBelow (path ++ [name]) entry ++ membersBelow path rest

end

end Entry

/-- All files, and the working directory. -/
structure Files where
  /-- The root of all files. -/
  root : Entry := .empty
  /-- The parts of the path from the root to the working directory. -/
  here : List String := []

namespace Files

/-- The parts of a path from the root on, without those that stand for nothing. -/
def absolute (files : Files) (p : Path) : List String :=
  (Path.clean ⟨true, if p.rooted then p.parts else files.here ++ p.parts⟩).parts

/-- What stands at a path. -/
def find (files : Files) (p : Path) : Except FileFault Entry := files.root.find (files.absolute p)

/-- The content of the file at a path. -/
def read (files : Files) (p : Path) : Except FileFault String := (files.find p).bind Entry.content

/-- What stands at the path that a text names, which is followed part by part; the empty text names
nothing. -/
def findNamed (files : Files) (text : String) : Except FileFault Entry :=
  if text = "" then .error .missing
  else
    let p := Path.parse text
    files.root.walk [] (if p.rooted then p.parts else files.here ++ p.parts)

/-- The content of the file that a text names. -/
def readNamed (files : Files) (text : String) : Except FileFault String :=
  (files.findNamed text).bind Entry.content

/-- Makes a directory with all directories above it. -/
def makeDirs (files : Files) (p : Path) : Except FileFault Files :=
  (files.root.makeDirs (files.absolute p)).map fun root => { files with root }

/-- Writes a file into a directory that must be there. -/
def write (files : Files) (p : Path) (text : String) : Except FileFault Files :=
  (files.root.write text (files.absolute p)).map fun root => { files with root }

/-- Writes a file and makes the directories above it. -/
def put (files : Files) (p : Path) (text : String) : Except FileFault Files :=
  (files.makeDirs ⟨p.rooted, p.parts.dropLast⟩).bind (·.write p text)

/-- The files that are new or have another content than before, each with the parts of its path from the root
on. -/
def changed (before after : Files) : List (List String × String) :=
  (after.root.filesBelow []).filter fun (parts, text) =>
    match (before.root.find parts).bind Entry.content with
    | .ok old => old != text
    | .error _ => true

/-- All files below the working directory with their paths, in the order of the paths. -/
def list (files : Files) : List (String × String) :=
  match files.root.find files.here with
  | .ok top =>
    ((top.filesBelow []).map fun (parts, text) => (Path.render ⟨false, parts⟩, text)).mergeSort
      fun a b => decide (a.1 ≤ b.1)
  | .error _ => []

end Files

end SqlOutline
