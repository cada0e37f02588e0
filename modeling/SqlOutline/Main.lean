import SqlOutline.Command.Line

/-!
# The program

Reads the arguments, the environment and the files that a run may look at, runs the program on them, and
writes what it leaves behind.
-/

namespace SqlOutline.Main

/-- The variables of the process. -/
def environment : IO Environment := do
  try
    let text ← IO.FS.readFile "/proc/self/environ"
    let entries := (text.splitOn "\x00").filterMap fun entry =>
      let name := entry.toList.takeWhile (· != '=')
      if name.isEmpty then none
      else some (String.ofList name, String.ofList (entry.toList.drop (name.length + 1)))
    return ⟨entries⟩
  catch _ => return {}

/-- Takes a file or an empty directory from the disk, if it is there. -/
def addFrom (files : Files) (path : String) : IO Files := do
  let place := (← IO.currentDir) / path
  let p := Path.parse path
  if ← place.isDir then return (files.makeDirs p).toOption.getD files
  else
    try
      let text ← IO.FS.readFile place
      return (files.put p text).toOption.getD files
    catch _ => return files

/-- Takes everything on the way to a path from the disk. -/
def addPath (files : Files) (path : String) : IO Files := do
  let p := Path.parse path
  let steps := (List.range p.parts.length).map fun n => Path.render ⟨p.rooted, p.parts.take (n + 1)⟩
  steps.foldlM addFrom files

/-- Takes a directory with all that is in it from the disk. -/
partial def addTree (files : Files) (path : String) : IO Files := do
  let files ← addPath files path
  let place := (← IO.currentDir) / path
  if ← place.isDir then
    let names := (← place.readDir).toList.map (·.fileName)
    names.foldlM (fun files name => addTree files (path ++ "/" ++ name)) files
  else return files

/-- Takes what an invocation may look at from the disk. -/
def load (i : CommandLine.Invocation) (files : Files) : IO Files := do
  let files ← [".env", i.configPath].foldlM addPath files
  match i.command with
  | .fixtures dir _ _ =>
    let config := Config.load (← environment) files i.configPath
    let dir := if dir = "" then (config.toOption.map (·.fixturesDir)).getD "" else dir
    let parts := (Fixture.base dir).parts
    let plain : Path := { Fixture.base dir with parts := parts.takeWhile (!Glob.hasSpecial ·) }
    if plain.parts.length < parts.length then addTree files plain.render
    else [plain.child "sql", plain.child "expected"].foldlM (fun files p => addTree files p.render) files
  | command =>
    match command.source? with
    | some s => if s.isStdin then return files else addPath files s.input
    | none => return files

/-- Reads lines until there are no more. -/
partial def readLines (s : IO.FS.Stream) (done : String) : IO String := do
  let line ← s.getLine
  if line.isEmpty then return done else readLines s (done ++ line)

/-- The standard input, if a command reads it. -/
def input (i : CommandLine.Invocation) : IO String := do
  match i.command.source? with
  | some s => if s.isStdin then readLines (← IO.getStdin) "" else return ""
  | none => return ""

/-- Writes the files that a run has changed. -/
def save (before after : Files) : IO Unit := do
  for (parts, text) in before.changed after do
    IO.FS.createDirAll (Path.render ⟨true, parts.dropLast⟩)
    IO.FS.writeFile (Path.render ⟨true, parts⟩) text

end SqlOutline.Main

open SqlOutline in
/-- Runs the program. -/
def main (args : List String) : IO UInt32 := do
  let here := (Path.parse (toString (← IO.currentDir))).parts
  let start : Files := (({ here } : Files).makeDirs {}).toOption.getD { here }
  let (files, stdin) ←
    match CommandLine.parse args with
    | .run i => pure (← Main.load i start, ← Main.input i)
    | _ => pure (start, "")
  let terminal ← (← IO.getStdout).isTty
  let exit := CommandLine.execute args (← Main.environment) files stdin terminal
  (← IO.getStdout).putStr exit.stdout
  (← IO.getStderr).putStr exit.stderr
  Main.save files exit.files
  return exit.code.toUInt32
