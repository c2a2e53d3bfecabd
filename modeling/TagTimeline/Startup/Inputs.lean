import TagTimeline.Database.Location
import TagTimeline.Startup.Run

/-!
# The Inputs of a Run

Which files and directories a run looks at. What is known of the directory decides what else is
looked at: the environment file names the configuration files, and the configuration names the
database.

## Main results

* `Startup.inputs` — the paths that a run looks at, as far as the known files tell.
-/

namespace TagTimeline.Startup

/-- The paths that are looked at to find a file by its name: the file's and those on the way. -/
def pathsOf (name : String) : List Path :=
  if Path.isAbsolute name then [] else Path.stages [] (Path.parts name)

/-- The paths that are looked at for a configuration file. -/
def candidates (name : String) : List Path :=
  pathsOf name ++
    Config.Format.all.flatMap fun format =>
      ((Path.withExtension? format.extension name).map pathsOf).getD []

/-- The paths that are looked at for the database of a configuration. -/
def databasePaths (config : Config) : List Path :=
  match (Address.read? config.database.url).bind Location.ofAddress? with
  | some ⟨.file name, _, _⟩ => pathsOf name
  | _ => []

/-- **The paths that a run looks at**, as far as the known files tell. -/
def inputs (env : Environment) (known : Directory) : List Path :=
  let (env, _) := variablesOf known env
  let database := match Config.load known.read? env with
    | .ok config => databasePaths config
    | .error _ => []
  pathsOf environmentFile ++ candidates Config.defaultFile ++
    candidates (Config.environmentFile env) ++ database

/-- How often the files have to be looked up until all of them are known. -/
def lookups : Nat := 3

end TagTimeline.Startup
