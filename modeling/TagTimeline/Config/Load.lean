import TagTimeline.Config.Basic
import TagTimeline.Config.Environment
import TagTimeline.Config.Format
import TagTimeline.Config.Place

/-!
# Loading the Configuration

The configuration is made of layers, each laid over the ones before: a file with defaults, a file
for the environment that the program runs in, and the environment variables. The two files may be
missing, but one that exists has to be well-formed. A configuration can also be read from one given
file, which has to exist, and the environment variables.

## Main results

* `Config.load` — the configuration of the program.
* `Config.ofFile` — the configuration in a given file.
-/

namespace TagTimeline.Config

/-- The name of the file with defaults. -/
def defaultFile : String := "config/default"

/-- The variable that names the environment which the program runs in. -/
def environmentVariable : String := "QANDA_ENV"

/-- The environment which the program runs in. -/
def runEnvironment (env : Environment) : String :=
  (env.get? environmentVariable).getD "development"

/-- The name of the file for the environment. -/
def environmentFile (env : Environment) : String := "config/" ++ runEnvironment env

/-- The layer in a file that has been located. -/
def layerOf (file : Format × String) : Except ConfigError (List (String × Value)) :=
  match file.1.read? file.2 with
  | some layer => .ok layer
  | none => .error .malformedFile

/-- The settings with a layer laid over them. -/
def lay (lower : Value) (layer : List (String × Value)) : Except ConfigError Value :=
  match Value.merge? layer lower with
  | some value => .ok value
  | none => .error .noPosition

/-- The settings with those of a file laid over them, which may be missing. -/
def layFile (files : FileReader) (lower : Value) (name : String) : Except ConfigError Value :=
  match locate files name with
  | some file => layerOf file >>= lay lower
  | none => .ok lower

/-- **The configuration of the program.** -/
def load (files : FileReader) (env : Environment) : Except ConfigError Config := do
  let value ← layFile files .emptyTable defaultFile
  let value ← layFile files value (environmentFile env)
  let value ← lay value env.settings
  ofValue value

/-- **The configuration in a given file.** -/
def ofFile (files : FileReader) (env : Environment) (name : String) :
    Except ConfigError Config := do
  let value ← match locate files name with
    | some file => layerOf file >>= lay .emptyTable
    | none => .error .noFile
  let value ← lay value env.settings
  ofValue value

end TagTimeline.Config
