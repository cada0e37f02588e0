import SqlOutline.Environment.Basic
import SqlOutline.Export
import SqlOutline.Layout.Basic

/-!
# Configurations

* `Settings` : what a configuration document says, with empty values where it says nothing;
* `Settings.read` : reads a document.  Every key must be known;
* `Config` : a checked configuration;
* `Config.ofSettings` : replaces references to variables, fills in the defaults and checks the values;
* `Config.parse` : all of this for the text of a document.
-/

namespace SqlOutline

/-- What a document says about formatting. -/
structure FormatterSettings where
  /-- Whether clauses start lines of their own. -/
  reindent : Option Bool := none
  /-- The name of the spelling of keywords. -/
  keywordCase : String := ""
  /-- Whether runs of white space are shortened. -/
  stripWhitespace : Option Bool := none
  /-- The indentation of conditions. -/
  indentWidth : Int := 0
deriving DecidableEq, Repr

/-- What a document says. -/
structure Settings where
  /-- The section on formatting. -/
  formatter : FormatterSettings := {}
  /-- The name of the output format. -/
  format : String := ""
  /-- Whether output is indented. -/
  pretty : Bool := false
  /-- Whether output is coloured. -/
  color : Option Bool := none
  /-- The name of the log level. -/
  logLevel : String := ""
  /-- The fixture directory. -/
  fixturesDir : String := ""
  /-- Whether the queries of fixtures are normalized. -/
  fixturesNormalize : Bool := false
deriving DecidableEq, Repr

namespace Settings

/-- Reads the members of a section one after the other.  A member that `field` does not know is an error,
unless it was merged into the section. -/
def readSection (keys : List String) (field : Settings → String → Yaml.Value → Option Settings) (s : Settings) :
    Yaml.Value → Option Settings
  | .mapping members merged => do
    let s ← members.foldlM (fun s (key, value) => field s key value) s
    (merged.filter (keys.contains ·.1)).foldlM (fun s (key, value) => field s key value) s
  | _ => none

/-- Reads a section of a document; without a value it says nothing. -/
def readPart (keys : List String) (field : Settings → String → Yaml.Value → Option Settings) (s : Settings) :
    Yaml.Value → Option Settings
  | .null => some s
  | value => readSection keys field s value

/-- A member of the section on formatting. -/
def formatterField (s : Settings) (key : String) (value : Yaml.Value) : Option Settings :=
  let set (f : FormatterSettings → FormatterSettings) : Settings := { s with formatter := f s.formatter }
  match key with
  | "reindent" => (Yaml.toBool? value).map fun b => set ({ · with reindent := b })
  | "keyword_case" => (Yaml.toText? value).map fun t => set ({ · with keywordCase := t })
  | "strip_whitespace" => (Yaml.toBool? value).map fun b => set ({ · with stripWhitespace := b })
  | "indent_width" => (Yaml.toInt? value).map fun n => set ({ · with indentWidth := n })
  | _ => none

/-- A member of the section on output. -/
def outputField (s : Settings) (key : String) (value : Yaml.Value) : Option Settings :=
  match key with
  | "format" => (Yaml.toText? value).map fun t => { s with format := t }
  | "pretty" => (Yaml.toBool? value).map fun b => { s with pretty := b.getD false }
  | "color" => (Yaml.toBool? value).map fun b => { s with color := b }
  | _ => none

/-- A member of the section on the log. -/
def logField (s : Settings) (key : String) (value : Yaml.Value) : Option Settings :=
  match key with
  | "level" => (Yaml.toText? value).map fun t => { s with logLevel := t }
  | _ => none

/-- A member of the section on fixtures. -/
def fixturesField (s : Settings) (key : String) (value : Yaml.Value) : Option Settings :=
  match key with
  | "dir" => (Yaml.toText? value).map fun t => { s with fixturesDir := t }
  | "normalize" => (Yaml.toBool? value).map fun b => { s with fixturesNormalize := b.getD false }
  | _ => none

/-- A section of a document. -/
def documentField (s : Settings) (key : String) (value : Yaml.Value) : Option Settings :=
  match key with
  | "formatter" =>
    readPart ["reindent", "keyword_case", "strip_whitespace", "indent_width"] formatterField s value
  | "output" => readPart ["format", "pretty", "color"] outputField s value
  | "log" => readPart ["level"] logField s value
  | "fixtures" => readPart ["dir", "normalize"] fixturesField s value
  | _ => none

/-- Reads a document; an empty one says nothing. -/
def read (text : String) : Option Settings :=
  match Yaml.parse text with
  | none => none
  | some none => some {}
  | some (some value) => readSection ["formatter", "output", "log", "fixtures"] documentField {} value

/-- Replaces the references to variables in the texts that may hold them. -/
def expand (env : Environment) (s : Settings) : Settings :=
  { s with
    fixturesDir := env.expand s.fixturesDir
    format := env.expand s.format
    logLevel := env.expand s.logLevel }

/-- A text, or the default when it is empty. -/
def orDefault (default text : String) : String := if text = "" then default else text

/-- Fills in the defaults.  The names of formats and log levels are written in lower case. -/
def withDefaults (s : Settings) : Settings :=
  { s with
    formatter := { s.formatter with
      keywordCase := orDefault "upper" s.formatter.keywordCase
      indentWidth := if s.formatter.indentWidth = 0 then 2 else s.formatter.indentWidth }
    format := Text.lower (orDefault "json" s.format)
    logLevel := Text.lower (orDefault "info" s.logLevel)
    fixturesDir := orDefault "testdata/fixtures" s.fixturesDir }

end Settings

/-- How much is logged. -/
inductive LogLevel where
  | info | debug | trace
deriving DecidableEq, Repr

/-- The name of a log level. -/
def LogLevel.name : LogLevel → String
  | info => "info"
  | debug => "debug"
  | trace => "trace"

/-- The log level with exactly the given name. -/
def LogLevel.ofName? (name : String) : Option LogLevel := [info, debug, trace].find? (·.name == name)

/-- A checked configuration. -/
structure Config where
  /-- The section on formatting; its spelling of keywords is the name of one. -/
  formatter : FormatterSettings
  /-- The output format. -/
  format : Format
  /-- Whether output is indented. -/
  pretty : Bool
  /-- Whether output is coloured; without a value it is up to the terminal. -/
  color : Option Bool
  /-- How much is logged. -/
  logLevel : LogLevel
  /-- The fixture directory. -/
  fixturesDir : String
  /-- Whether the queries of fixtures are normalized. -/
  fixturesNormalize : Bool
deriving DecidableEq, Repr

/-- Why there is no configuration. -/
inductive ConfigError where
  /-- The file of variable definitions cannot be used. -/
  | badDefinitions
  /-- The configuration file cannot be read. -/
  | unreadable
  /-- The document is malformed, has unknown keys or values of the wrong type. -/
  | malformed
  /-- The spelling of keywords is unknown. -/
  | keywordCase (e : KeywordCase.UnknownCase)
  /-- The indentation is negative. -/
  | negativeIndent (width : Int)
  /-- The output format is unknown. -/
  | format (name : String)
  /-- The log level is unknown. -/
  | logLevel (name : String)
deriving DecidableEq, Repr

/-- The wording of a configuration error. -/
def ConfigError.message : ConfigError → String
  | badDefinitions => "failed to load environment files: failed to load .env file"
  | unreadable => "failed to read config file"
  | malformed => "failed to parse config file"
  | keywordCase e => "configuration validation failed: formatter.keyword_case: " ++ e.message
  | negativeIndent width =>
    "configuration validation failed: formatter.indent_width must not be negative: " ++ toString width
  | format name =>
    "configuration validation failed: invalid output format '" ++ name ++ "': must be one of json, yaml, xml"
  | logLevel name =>
    "configuration validation failed: invalid log level '" ++ name ++ "': must be one of info, debug, trace"

namespace Config

/-- Checks settings that have no empty values; the first value that is not allowed is reported. -/
def check (s : Settings) : Except ConfigError Config :=
  match KeywordCase.parse s.formatter.keywordCase with
  | .error e => .error (.keywordCase e)
  | .ok _ =>
    if s.formatter.indentWidth < 0 then .error (.negativeIndent s.formatter.indentWidth)
    else
      match Format.ofName s.format with
      | .error _ => .error (.format s.format)
      | .ok format =>
        match LogLevel.ofName? s.logLevel with
        | none => .error (.logLevel s.logLevel)
        | some logLevel =>
          .ok { formatter := s.formatter, format, pretty := s.pretty, color := s.color, logLevel,
                fixturesDir := s.fixturesDir, fixturesNormalize := s.fixturesNormalize }

/-- The configuration that settings describe in an environment. -/
def ofSettings (env : Environment) (s : Settings) : Except ConfigError Config :=
  check (s.expand env).withDefaults

/-- The configuration that a document describes in an environment. -/
def parse (env : Environment) (text : String) : Except ConfigError Config :=
  match Settings.read text with
  | none => .error .malformed
  | some s => ofSettings env s

/-- The configuration without a document. -/
def standard : Config where
  formatter := { keywordCase := "upper", indentWidth := 2 }
  format := .json
  pretty := false
  color := none
  logLevel := .info
  fixturesDir := "testdata/fixtures"
  fixturesNormalize := false

/-- The layout that the section on formatting describes. -/
def layout (c : Config) : Layout.Options where
  reindent := c.formatter.reindent.getD true
  keywordCase := (KeywordCase.parse c.formatter.keywordCase).toOption.getD .preserve
  stripWhitespace := c.formatter.stripWhitespace.getD true
  indentWidth := c.formatter.indentWidth

end Config

end SqlOutline
