import SqlOutline.Config.Basic
import SqlOutline.Environment.Definitions
import SqlOutline.Files.Tree

/-!
# Loading configurations

A configuration is loaded from a file of the working directory.  Variables that `.env` defines there are
added to the environment first, and a configuration file that is missing stands for the defaults.
-/

namespace SqlOutline.Config

/-- The environment with the variables that the file `.env` defines. -/
def loadEnvironment (env : Environment) (files : Files) : Except ConfigError Environment :=
  match files.read ⟨false, [".env"]⟩ with
  | .error .missing => .ok env
  | .error _ => .error .badDefinitions
  | .ok text =>
    match Definitions.parse text with
    | some defined => .ok (env.define defined)
    | none => .error .badDefinitions

/-- The configuration in the file that a text names. -/
def load (env : Environment) (files : Files) (path : String) : Except ConfigError Config := do
  let env ← loadEnvironment env files
  match files.findNamed path with
  | .error .missing => return standard
  | .error _ => throw .unreadable
  | .ok entry =>
    match entry.content with
    | .ok text => parse env text
    | .error _ => throw .unreadable

end SqlOutline.Config
