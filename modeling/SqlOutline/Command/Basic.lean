import SqlOutline.Config.Basic
import SqlOutline.Filter.Basic
import SqlOutline.Fixture.Report
import SqlOutline.Markdown.SqlBlock

/-!
# Commands

What the program can be asked to do, and what it prints and changes.

* `Command` : the commands with their arguments;
* `Context` : the configuration, the files and the standard input that a command works with;
* `Effect`, `Outcome` : what a command prints, and the files and the error it ends with;
* `Command.run` : carries out a command.
-/

namespace SqlOutline

/-- Where a command takes its SQL from. -/
structure Source where
  /-- The path of a file; the empty path and `-` stand for the standard input. -/
  input : String := ""
  /-- Which SQL block of a Markdown file is taken, counted from zero. -/
  block : Int := 0
deriving DecidableEq, Repr

/-- Whether a source is the standard input. -/
def Source.isStdin (s : Source) : Bool := s.input == "" || s.input == "-"

/-- How a command writes trees. -/
structure Target where
  /-- The name of the format; empty for the one of the configuration. -/
  format : String := ""
  /-- Whether the output is indented. -/
  pretty : Bool := false
deriving DecidableEq, Repr

/-- The choices of the format command; empty and zero leave a choice to the configuration. -/
structure FormatChoices where
  /-- The name of the spelling of keywords. -/
  keywordCase : String := ""
  /-- The indentation of conditions. -/
  indent : Int := 0
  /-- Whether clauses stay on their lines. -/
  noReindent : Bool := false
  /-- Whether the input is only checked. -/
  check : Bool := false
deriving DecidableEq, Repr

/-- A command. -/
inductive Command where
  /-- Prints the node of a query. -/
  | tree (source : Source) (target : Target) (normalizing : Bool)
  /-- Prints the texts of the leaves of a query. -/
  | flatten (source : Source) (target : Target) (normalizing : Bool)
  /-- Formats SQL, or checks that it is formatted. -/
  | format (source : Source) (choices : FormatChoices)
  /-- Prints the depth, the size and the kinds of an outline. -/
  | stats (source : Source) (normalizing : Bool)
  /-- Prints the nodes of an outline that an expression selects, or their number. -/
  | find (expression : String) (source : Source) (normalizing count : Bool)
  /-- Checks the fixtures of a directory, or writes their expectations. -/
  | fixtures (dir : String) (update normalizing : Bool)
  /-- Prints the version. -/
  | version
deriving DecidableEq, Repr

/-- The source of a command that has one. -/
def Command.source? : Command → Option Source
  | tree s _ _ => some s
  | flatten s _ _ => some s
  | format s _ => some s
  | stats s _ => some s
  | find _ s _ _ => some s
  | fixtures _ _ _ => none
  | version => none

/-- What a command works with. -/
structure Context where
  /-- The configuration. -/
  config : Config
  /-- Whether reports are detailed. -/
  verbose : Bool := false
  /-- Whether reports on success are left out. -/
  quiet : Bool := false
  /-- Whether output is coloured. -/
  color : Bool := false
  /-- The standard input. -/
  stdin : String := ""
  /-- The files. -/
  files : Files := {}

/-- Why a command fails. -/
inductive CommandError where
  /-- The input cannot be read. -/
  | unreadable
  /-- The input is blank. -/
  | emptyInput
  /-- A Markdown file has no SQL block. -/
  | noSqlBlock (path : String)
  /-- A Markdown file has no such SQL block. -/
  | blockOutOfRange (block : Int) (found : Nat)
  /-- The query has no tree. -/
  | query (e : QueryError)
  /-- The output format is unknown. -/
  | format (e : Format.UnknownFormat)
  /-- The node has no document. -/
  | unencodable (e : WriteError)
  /-- The spelling of keywords is unknown. -/
  | keywordCase (e : KeywordCase.UnknownCase)
  /-- The input cannot be formatted. -/
  | malformed (e : MalformedSql)
  /-- The input is not formatted. -/
  | notFormatted
  /-- The expression cannot be read or typed. -/
  | expression (e : Filter.InvalidExpression)
  /-- The expression has no truth value on a node. -/
  | selection (filter : Filter.Compiled) (e : Filter.SelectError)
  /-- The fixtures cannot be used. -/
  | fixture (e : Fixture.FixtureError)
  /-- Some fixtures fail. -/
  | fixturesFailed (failed total : Nat)

/-- The wording of a command error. -/
def CommandError.message : CommandError → String
  | unreadable => "failed to read input"
  | emptyInput => "input is empty"
  | noSqlBlock path => SqlBlock.noneMessage ++ ": " ++ path
  | blockOutOfRange block found =>
    "sql block index out of range: " ++ toString block ++ " (found " ++ toString found ++ ")"
  | query e => e.message
  | format e => e.message
  | unencodable e => e.message
  | keywordCase e => e.message
  | malformed e => "failed to format SQL: " ++ e.message
  | notFormatted => "input is not formatted"
  | expression e => e.message
  | selection filter e => filter.message e
  | fixture e => e.message
  | fixturesFailed failed total =>
    "some fixtures failed: " ++ toString failed ++ " of " ++ toString total

/-- Something that a command shows. -/
inductive Effect where
  /-- Text on the standard output. -/
  | print (text : String)
  /-- Text on the standard error output. -/
  | warn (text : String)
  /-- A line of the log. -/
  | log (text : String)
deriving DecidableEq, Repr

/-- How a command ends. -/
structure Outcome where
  /-- What it showed, in order. -/
  effects : List Effect := []
  /-- The files afterwards. -/
  files : Files
  /-- The error it ended with. -/
  error : Option CommandError := none

/-- What went to the standard output. -/
def Outcome.printed (o : Outcome) : String :=
  String.join (o.effects.filterMap fun e =>
    match e with
    | .print text => some text
    | _ => none)

namespace Command

/-! ### Input -/

/-- Whether a path names a Markdown file. -/
def isMarkdown (path : String) : Bool := [".md", ".markdown"].contains (Text.lower (Path.extension path))

/-- The content of a source. -/
def readSource (ctx : Context) (s : Source) : Except CommandError String :=
  if s.isStdin then .ok ctx.stdin
  else (ctx.files.readNamed s.input).mapError fun _ => .unreadable

/-- The SQL block that a source takes from a Markdown text. -/
def selectBlock (s : Source) (text : String) : Except CommandError String :=
  match SqlBlock.ofMarkdown text with
  | [] => .error (.noSqlBlock s.input)
  | blocks =>
    match (if s.block < 0 then none else blocks[s.block.toNat]?) with
    | some b => .ok b.sql
    | none => .error (.blockOutOfRange s.block blocks.length)

/-- The SQL of a source, which must not be blank unless it comes from a Markdown file. -/
def readSql (ctx : Context) (s : Source) : Except CommandError String := do
  let text ← readSource ctx s
  if isMarkdown s.input then selectBlock s text
  else if Text.isBlank text then throw .emptyInput
  else return text

/-- The query of a source. -/
def readQuery (ctx : Context) (s : Source) (normalizing : Bool) : Except CommandError Query := do
  let sql ← readSql ctx s
  (Query.set {} sql normalizing).mapError .query

/-! ### Output -/

/-- The format and the indentation of the output. -/
def resolveTarget (ctx : Context) (t : Target) : Except CommandError (Format × Bool) := do
  let name := if t.format = "" then ctx.config.format.name else t.format
  let fmt ← (Format.parse name).mapError .format
  return (fmt, t.pretty || ctx.config.pretty)

/-- What the tree command prints. -/
def treeText (ctx : Context) (s : Source) (t : Target) (normalizing : Bool) :
    Except CommandError String := do
  let (fmt, pretty) ← resolveTarget ctx t
  let q ← readQuery ctx s normalizing
  let (node, _) ← q.node.mapError .query
  (writeNode fmt pretty node).mapError .unencodable

/-- What the flatten command prints. -/
def flattenText (ctx : Context) (s : Source) (t : Target) (normalizing : Bool) :
    Except CommandError String := do
  let (fmt, pretty) ← resolveTarget ctx t
  let q ← readQuery ctx s normalizing
  let (texts, _) ← q.texts.mapError .query
  return writeTexts fmt pretty texts

/-- The outline of a source. -/
def readOutline (ctx : Context) (s : Source) (normalizing : Bool) : Except CommandError Outline := do
  let q ← readQuery ctx s normalizing
  let (outline, _) ← q.outline.mapError .query
  return outline

/-- What the stats command prints. -/
def statsText (ctx : Context) (s : Source) (normalizing : Bool) : Except CommandError String := do
  let o ← readOutline ctx s normalizing
  let label := Text.paint ctx.color .label
  let kinds := o.kindCounts.map fun (kind, n) =>
    "  " ++ Text.padEnd 20 (Text.paint ctx.color .kind kind.tag) ++ " " ++ toString n ++ "\n"
  return label "Depth:" ++ " " ++ toString o.depth ++ "\n"
    ++ label "Nodes:" ++ " " ++ toString o.count ++ "\n"
    ++ label "Kinds:" ++ "\n" ++ String.join kinds

/-- The line of a node that an expression selects. -/
def matchLine (color : Bool) (level : Nat) (o : Outline) : String :=
  let text :=
    match o.label with
    | none => Text.paint color .kind "<group>"
    | some l => Text.paint color .kind l.kind.tag ++ " " ++ Text.quote l.text
  Outline.indent level ++ text ++ "\n"

/-- What the find command prints. -/
def findText (ctx : Context) (expression : String) (s : Source) (normalizing count : Bool) :
    Except CommandError String := do
  let filter ← (Filter.compile expression).mapError .expression
  let o ← readOutline ctx s normalizing
  let found ← (filter.select o).mapError (.selection filter)
  if count then return toString found.length ++ "\n"
  else return String.join (found.map fun (level, sub) => matchLine ctx.color level sub)

/-! ### Formatting -/

/-- The layout that the choices of the format command make of the configuration. -/
def layoutOf (c : Config) (choices : FormatChoices) : Except CommandError Layout.Options := do
  let layout := c.layout
  let keywordCase ←
    if choices.keywordCase = "" then pure layout.keywordCase
    else (KeywordCase.parse choices.keywordCase).mapError .keywordCase
  return { layout with
    keywordCase
    indentWidth := if choices.indent > 0 then choices.indent else layout.indentWidth
    reindent := layout.reindent && !choices.noReindent }

/-- The name under which a source is shown. -/
def sourceName (s : Source) : String := if s.isStdin then "<stdin>" else s.input

/-- The SQL of a source and its formatted text. -/
def formatted (ctx : Context) (s : Source) (choices : FormatChoices) :
    Except CommandError (String × String) := do
  let layout ← layoutOf ctx.config choices
  let sql ← readSql ctx s
  let out ← (Layout.format layout sql).mapError .malformed
  return (sql, out)

/-- Formats a source, or checks that it is formatted but for white space at both ends. -/
def runFormat (ctx : Context) (s : Source) (choices : FormatChoices) : Outcome :=
  match formatted ctx s choices with
  | .error e => { files := ctx.files, error := some e }
  | .ok (sql, out) =>
    if choices.check then
      if Text.trim sql = out then { files := ctx.files }
      else
        { effects := if ctx.quiet then [] else [.warn (sourceName s ++ " is not formatted\n")]
          files := ctx.files
          error := some .notFormatted }
    else { effects := [.print (out ++ "\n")], files := ctx.files }

/-! ### Fixtures -/

/-- Writes the expectations of a fixture directory. -/
def updateFixtures (ctx : Context) (dir : String) (normalizing : Bool) : Outcome :=
  let written := Fixture.writeExpected ctx.files dir normalizing
  let log := written.paths.map fun p => Effect.log ("Wrote " ++ p.render ++ "\n")
  match written.error with
  | some e => { effects := log, files := written.files, error := some (.fixture e) }
  | none =>
    let report := "Updated " ++ toString written.names.length ++ " fixtures in " ++ dir ++ "\n"
    { effects := log ++ if ctx.quiet then [] else [.print (Text.paint ctx.color .good report)]
      files := written.files }

/-- Checks the fixtures of a directory. -/
def checkFixtures (ctx : Context) (dir : String) (normalizing : Bool) : Outcome :=
  match Fixture.load ctx.files dir with
  | .error e => { files := ctx.files, error := some (.fixture e) }
  | .ok cases =>
    let summary := Fixture.run cases normalizing
    { effects := if ctx.quiet && summary.failed == 0 then []
        else [.print (summary.report ctx.color ctx.verbose)]
      files := ctx.files
      error := if summary.failed = 0 then none else some (.fixturesFailed summary.failed summary.total) }

/-! ### All commands -/

/-- The version that is printed. -/
def versionText : String := "sqltree v0.1.0\n"

/-- The outcome of a command that only prints. -/
def printing (ctx : Context) : Except CommandError String → Outcome
  | .ok text => { effects := [.print text], files := ctx.files }
  | .error e => { files := ctx.files, error := some e }

/-- Carries out a command. -/
def run (ctx : Context) : Command → Outcome
  | tree s t normalizing => printing ctx (treeText ctx s t normalizing)
  | flatten s t normalizing => printing ctx (flattenText ctx s t normalizing)
  | format s choices => runFormat ctx s choices
  | stats s normalizing => printing ctx (statsText ctx s normalizing)
  | find expression s normalizing count => printing ctx (findText ctx expression s normalizing count)
  | fixtures dir update normalizing =>
    let dir := if dir = "" then ctx.config.fixturesDir else dir
    let normalizing := normalizing || ctx.config.fixturesNormalize
    if update then updateFixtures ctx dir normalizing else checkFixtures ctx dir normalizing
  | version => printing ctx (.ok versionText)

end Command

end SqlOutline
