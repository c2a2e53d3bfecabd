import TagTimeline.Config.Basic
import TagTimeline.Database.Location
import TagTimeline.Files.Directory

/-!
# Connections

A connection reaches the store in a file of the working directory, or a store of its own in memory.
A file is made at once if the address asks for it and its directory exists. An empty file is an
empty database; a file with any other text can be opened, but every operation on it fails. On a
connection that only reads, an operation that would change the store fails and changes nothing.

What looks like one connection are several that take turns, statement by statement. If each of them
has a database for itself, no statement finds what the one before has made, and every operation
fails.

## Main results

* `Directory.connect` — opens the database of a configuration.
* `Connection.run` — an operation on the store that a connection reaches.
-/

namespace TagTimeline

/-- **An open database.** -/
structure Connection where
  /-- The file of the database; one in memory has none. -/
  file : Option Path
  /-- The store, unless the file is no database or there are several. -/
  store : Option Store
  /-- Whether the store can be changed. -/
  writable : Bool
  deriving DecidableEq

namespace Connection

/-- A new database in memory. -/
def inMemory (writable : Bool) : Connection := ⟨none, some .empty, writable⟩

/-- Several connections, each with a database for itself. -/
def scattered : Connection := ⟨none, none, true⟩

/-- That a connection has no store. -/
def unreadable (context : String) : ServiceError := Store.failed context .notADatabase

/-- **Runs an operation.** -/
def run {α : Type} (context : String) (operation : Store → Outcome α) (connection : Connection) :
    Except ServiceError α × Connection :=
  match connection.store with
  | none => (.error (unreadable context), connection)
  | some store =>
      let (result, after) := operation store
      if connection.writable ∨ after = store then (result, { connection with store := some after })
      else (.error (Store.failed context .readOnly), connection)

/-- Runs an operation that changes nothing. -/
def read {α : Type} (context : String) (operation : Store → Except ServiceError α)
    (connection : Connection) : Except ServiceError α :=
  match connection.store with
  | none => .error (unreadable context)
  | some store => operation store

end Connection

/-- What comes of opening a database. -/
inductive Opening where
  | opened (connection : Connection) (directory : Directory)
  | refused (error : ServiceError)
  /-- There is no room for a single connection, which stops the program. -/
  | aborted

namespace Directory

/-- What a failing connection was part of. -/
def connectContext : String := "connect"

/-- That there is no database at an address. -/
def refusal : Opening := .refused (.storage connectContext "unable to open database")

/-- A connection to a file that exists. -/
def openFile (directory : Directory) (path : Path) (content : FileContent) (writable : Bool) :
    Opening :=
  match content with
  | .database store => .opened ⟨some path, some store, writable⟩ directory
  | .text text =>
      .opened ⟨some path, if text.isEmpty then some .empty else none, writable⟩ directory

/-- What is added to the name of a file for one that is needed while it changes. -/
def journalSuffix : String := "-journal"

/-- Whether the file with a path can be changed. -/
def hasJournal (path : Path) : Bool :=
  (path.getLast?).any fun name => Path.isName (name ++ journalSuffix)

/-- Opens a database in a file, which is made if it does not exist and `creates` says so. -/
def connectFile (directory : Directory) (name : String) (creates writable : Bool) : Opening :=
  match directory.place? name with
  | none => refusal
  | some path =>
      let writable := writable && hasJournal path
      match directory.get? path with
      | some content => directory.openFile path content writable
      | none =>
          if creates ∧ directory.hasFolder path.dropLast ∧ !directory.hasFolder path then
            (directory.set path (.text "")).openFile path (.text "") writable
          else refusal

/-- How many connections are opened at the start. -/
def initialConnections (config : DatabaseConfig) : UInt32 :=
  min (max config.minConnections 1) config.maxConnections

/-- **Opens the database of a configuration.** -/
def connect (directory : Directory) (config : DatabaseConfig) : Opening :=
  match Address.read? config.url with
  | none => refusal
  | some address =>
      if config.maxConnections = 0 then .aborted
      else
        match Location.ofAddress? address with
        | none => refusal
        | some ⟨.file name, creates, writable⟩ => directory.connectFile name creates writable
        | some ⟨.memory shared, _, writable⟩ =>
            .opened
              (if shared ∨ initialConnections config ≤ 1 then .inMemory writable else .scattered)
              directory

/-- The directory after a connection is closed: its file holds its store. -/
def close (directory : Directory) (connection : Connection) : Directory :=
  match connection.file, connection.store with
  | some path, some store => directory.set path (.database store)
  | _, _ => directory

end Directory

end TagTimeline
