import Std.Time.DateTime.Timestamp
import TagTimeline.Database.File
import TagTimeline.Startup.Inputs

/-!
# The Program

Prepares the store of the site in the working directory: reads the environment and the files that
the run looks at, runs it, prints its log, and writes the database back. The exit code tells how the
run ended.
-/

namespace TagTimeline.Main

open Time

/-- The variables of this process. -/
def environment : IO Environment := do
  let bytes ← IO.FS.readBinFile "/proc/self/environ"
  let text := (String.fromUTF8? bytes).getD ""
  return (text.splitOn "\x00").filterMap fun entry =>
    match entry.splitOn "=" with
    | name :: value :: more => some (name, "=".intercalate (value :: more))
    | _ => none

/-- The present. -/
def now : IO Timestamp := do
  let time ← Std.Time.Timestamp.now
  return (Timestamp.ofUnixNanos? time.toNanosecondsSinceUnixEpoch.val).getD default

/-- The name of a file in the working directory. -/
def fileName (path : Path) : String := "/".intercalate path

/-- Whether there is a directory on disk, so that it can be opened as its own member. -/
def isFolder (path : Path) : IO Bool := do
  try
    discard (IO.FS.Handle.mk (fileName (path ++ ["."])) .read)
    return true
  catch _ => return false

/-- The directory with a file or folder as it is on disk; a file that cannot be read is not
there. -/
def readFile (directory : Directory) (path : Path) : IO Directory := do
  if path.isEmpty then return directory
  else if ← isFolder path then return { directory with folders := path :: directory.folders }
  else
    try
      let text ← IO.FS.readFile (fileName path)
      return directory.set path (.ofText text)
    catch _ => return directory

/-- The files that a run looks at. -/
def readInputs (env : Environment) : Nat → Directory → IO Directory
  | 0, directory => return directory
  | count + 1, directory => do
      let directory ← (Startup.inputs env directory).foldlM readFile directory
      readInputs env count directory

/-- Writes back the databases of a directory. -/
def writeDatabases (directory : Directory) : IO Unit :=
  directory.files.forM fun (path, content) =>
    match content with
    | .database _ => IO.FS.writeFile (fileName path) content.toText
    | .text _ => return ()

/-- Prepares the store in the working directory. -/
def program : IO UInt32 := do
  let env ← environment
  let before ← readInputs env Startup.lookups .empty
  let (report, after) := Startup.run (← now) env before
  for line in report.lines do
    IO.println line
  writeDatabases after
  if report.ending = .failed then
    IO.eprintln "Error: the store could not be prepared"
  return UInt32.ofNat report.ending.exitCode

end TagTimeline.Main

/-- The program of the command line. -/
def main : IO UInt32 := TagTimeline.Main.program
