import TagTimeline.Config.Load
import TagTimeline.Database.Connection
import TagTimeline.EnvFile.Load
import TagTimeline.Site.Setting
import TagTimeline.Startup.Event
import TagTimeline.Store.Migration
import TagTimeline.Tag.Catalog

/-!
# A Run of the Program

The program prepares the store: it reads the environment file, loads the configuration, connects to
the database, applies the migrations that are pending, makes the row of settings unless there is
one, and counts the recommended and the reserved tags. The first step that fails ends the run. Each
step is reported when it is done, and of the reports those are written that the log filter lets
pass.

## Main results

* `Startup.run` — one run in a directory: its report, and the directory after it.
* `Startup.runAll` — runs in the same directory, one after the other.
-/

namespace TagTimeline

open Time

/-- **How a run ends.** -/
inductive Ending where
  | done
  /-- A step has failed, which the program says. -/
  | failed
  /-- The program has been stopped. -/
  | aborted
  deriving DecidableEq, Repr

namespace Ending

/-- The exit code of the program. -/
def exitCode : Ending → Nat
  | done => 0
  | failed => 1
  | aborted => 101

end Ending

/-- **What a run leaves besides the directory**: how it ended, its events, and the filter for
them. -/
structure Report where
  ending : Ending
  events : List Event
  filter : LogFilter
  deriving DecidableEq, Repr

namespace Report

/-- The events that are written. -/
def written (report : Report) : List Event :=
  report.events.filter fun event =>
    report.filter.enables LogFilter.ownTarget event.fields event.level

/-- The lines that are written. -/
def lines (report : Report) : List String := report.written.map Event.line

end Report

namespace Startup

/-- The name of the environment file. -/
def environmentFile : String := ".env"

/-- The variables of a run, and how the reading of the environment file ends, if it exists. -/
def variablesOf (directory : Directory) (env : Environment) :
    Environment × EnvFile.Completion :=
  match directory.read? environmentFile with
  | some text => EnvFile.load text env
  | none => (env, .complete)

/-- What a step of the preparation comes to. -/
structure Step where
  ending : Ending
  events : List Event
  connection : Connection

/-- Counts the tags that are recommended and those that are reserved. -/
def countTags (connection : Connection) : Step :=
  let context := "count tags"
  match connection.read context (Catalog.getRecommendTags .stored) with
  | .error _ => ⟨.failed, [], connection⟩
  | .ok recommended =>
      match connection.read context (Catalog.getReservedTags .stored) with
      | .error _ => ⟨.failed, [], connection⟩
      | .ok reserved => ⟨.done, [.tagsReady recommended.length reserved.length], connection⟩

/-- Makes the row of settings, unless there is one, and goes on. -/
def prepareSettings (requiredTag : Bool) (now : Timestamp) (connection : Connection) : Step :=
  match connection.run "site settings" (Store.getOrCreateSettings requiredTag now) with
  | (.error _, connection) => ⟨.failed, [], connection⟩
  | (.ok settings, connection) =>
      let next := countTags connection
      { next with events := .settingsReady settings.requiredTag :: next.events }

/-- **Prepares the store** that a connection reaches. -/
def prepare (requiredTag : Bool) (now : Timestamp) (connection : Connection) : Step :=
  match connection.run Store.migrateContext Store.migrate with
  | (.error _, connection) => ⟨.failed, [.migrating], connection⟩
  | (.ok (), connection) =>
      let next := prepareSettings requiredTag now connection
      { next with events := .migrating :: .migrated :: next.events }

/-- The steps from the configuration on, with the variables of the run. -/
def proceed (now : Timestamp) (env : Environment) (directory : Directory) :
    (Ending × List Event) × Directory :=
  match Config.load directory.read? env with
  | .error .noPosition => ((.aborted, []), directory)
  | .error _ => ((.failed, []), directory)
  | .ok config =>
      match directory.connect config.database with
      | .refused _ => ((.failed, []), directory)
      | .aborted => ((.aborted, []), directory)
      | .opened connection directory =>
          let step := prepare config.requiredTag now connection
          ((step.ending, .connected config.database.maxConnections :: step.events),
            directory.close step.connection)

/-- The report of a run that is stopped before its log begins. -/
def silentReport : Report := ⟨.aborted, [], .standard⟩

/-- **One run in a directory**, at some time and with some variables. The environment file is read
and the log filter made before anything is reported. -/
def run (now : Timestamp) (env : Environment) (directory : Directory) : Report × Directory :=
  let (env, completion) := variablesOf directory env
  match completion, LogFilter.ofEnvironment? env with
  | .aborted, _ => (silentReport, directory)
  | _, none => (silentReport, directory)
  | completion, some filter =>
      let ((ending, events), after) := proceed now env directory
      let opening :=
        if completion = .complete then [.starting] else [.environmentFileUnread, .starting]
      (⟨ending, opening ++ events, filter⟩, after)

/-- **What a run is started with**: the files that are written before, the time, and the
variables. -/
structure Launch where
  files : List (Path × String)
  now : Timestamp
  env : Environment

/-- A directory with some texts written. -/
def withFiles (directory : Directory) (files : List (Path × String)) : Directory :=
  files.foldl (fun directory (path, text) => directory.set path (.text text)) directory

/-- **Runs in the same directory**, one after the other. -/
def runAll : List Launch → Directory → List Report × Directory
  | [], directory => ([], directory)
  | launch :: more, directory =>
      let (report, directory) := run launch.now launch.env (withFiles directory launch.files)
      let (reports, directory) := runAll more directory
      (report :: reports, directory)

end Startup

end TagTimeline
