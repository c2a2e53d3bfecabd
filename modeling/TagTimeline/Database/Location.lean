import TagTimeline.Database.Address

/-!
# Where a Database Is

What the name and the parameters of an address come to. A name that begins with `file:` is a URL of
its own, with a path and parameters, of which `mode`, `cache`, `vfs` and `immutable` count; a mode
may not allow more than what the address asks for. A name for which the address asks for a file
system, or not to change, is a path as it stands with these as its parameters.

A database without a path is a temporary one, and a path `:memory:` or the mode for it makes one in
memory. Each connection has such a database for itself, unless the name is a URL and the connections
are to share it. One of the file systems keeps all of its databases in memory, too.

## Main results

* `Location.ofAddress?` — the place of the database at an address.
-/

namespace TagTimeline

open Text

/-- **A path of a database with parameters.** -/
structure DatabaseUrl where
  path : String
  parameters : List (String × String)
  deriving DecidableEq, Repr

namespace DatabaseUrl

/-- How a name that is a URL begins. -/
def opening : List Char := "file:".toList

/-- The bytes of a part of a URL, which end at an encoded NUL character. -/
def bytesOf (cs : List Char) : List UInt8 :=
  (Percent.decodeBytes (String.ofList cs).toUTF8.toList).takeWhile (· != 0)

/-- The text of a part of a URL, unless it has none. -/
def partText? (cs : List Char) : Option String := String.fromUTF8? ⟨(bytesOf cs).toArray⟩

/-- The text of a name or a value; what has no text is like no known one. -/
def wordText (cs : List Char) : String := (partText? cs).getD "\ufffd"

/-- A parameter: a name and a value, divided by the first equals sign. -/
def parameter (cs : List Char) : String × String :=
  (wordText (cs.takeWhile (· != '=')), wordText ((cs.dropWhile (· != '=')).drop 1))

/-- The text behind the host, which is this one or is left out. -/
def behindHost? : List Char → Option (List Char)
  | '/' :: '/' :: rest =>
      let host := rest.takeWhile (· != '/')
      if host.isEmpty ∨ host = "localhost".toList then some (rest.drop host.length) else none
  | cs => some cs

/-- **The URL that a text spells** behind its beginning. Parameters without a name are left out. -/
def read? (cs : List Char) : Option DatabaseUrl := do
  let cs := (← behindHost? cs).takeWhile (· != '#')
  let path ← partText? (cs.takeWhile (· != '?'))
  let query := (cs.dropWhile (· != '?')).drop 1
  return ⟨path, ((splitAt '&' query).map parameter).filter fun p => p.1 != ""⟩

/-- The last value that a parameter is given. -/
def last? (url : DatabaseUrl) (name : String) : Option String := url.parameters.reverse.lookup name

/-- Whether the first value that a parameter is given means yes. -/
def isSet (url : DatabaseUrl) (name : String) : Bool :=
  match url.parameters.lookup name with
  | none => false
  | some value =>
      let digits := value.toList.takeWhile isDigit
      if digits.isEmpty then ["on", "yes", "true"].contains (lowerAscii value)
      else (readNat? 10 digits).any fun n => n < Nat.pow 2 31 && n % 256 != 0

end DatabaseUrl

/-- How a database is to be opened. -/
structure Manner where
  /-- How it may be used; in memory nothing need be said. -/
  access : Option Access
  inMemory : Bool
  shared : Bool
  deriving DecidableEq, Repr

namespace Manner

/-- What an address asks for by itself. -/
def ofWishes (wishes : Wishes) : Manner := ⟨some wishes.access, wishes.inMemory, wishes.shared⟩

/-- How much an access allows. -/
def rank : Access → Nat
  | .reading => 0
  | .changing => 1
  | .making => 2

/-- Whether an access allows no more than what is asked for. In memory all is allowed. -/
def allows (manner : Manner) (access : Access) : Bool :=
  manner.inMemory || manner.access.any fun most => rank access ≤ rank most

/-- The manner with an access chosen. -/
def choose? (manner : Manner) (access : Access) : Option Manner :=
  if manner.allows access then some { manner with access := some access, inMemory := false }
  else none

/-- The manner with a parameter of a URL, if that is allowed. -/
def with? (manner : Manner) : String × String → Option Manner
  | ("mode", "ro") => manner.choose? .reading
  | ("mode", "rw") => manner.choose? .changing
  | ("mode", "rwc") => manner.choose? .making
  | ("mode", "memory") => some { manner with access := none, inMemory := true }
  | ("mode", _) => none
  | ("cache", "shared") => some { manner with shared := true }
  | ("cache", "private") => some { manner with shared := false }
  | ("cache", _) => none
  | _ => some manner

end Manner

/-- Where a database lives. -/
inductive Habitat where
  | file (name : String)
  /-- In memory, for all connections or for each of them. -/
  | memory (shared : Bool)
  deriving DecidableEq, Repr

/-- **Where a database is and how it is opened.** -/
structure Location where
  habitat : Habitat
  /-- Whether a file that does not exist is made. -/
  creates : Bool
  /-- Whether the database can be changed. -/
  writable : Bool
  deriving DecidableEq, Repr

namespace Location

/-- The file systems that there are besides the one in memory. -/
def fileSystems : List String := ["unix", "unix-none", "unix-dotfile", "unix-excl"]

/-- The file system in memory. -/
def memorySystem : String := "memdb"

/-- Whether all connections see a database of the file system in memory by its name alone. -/
def isCommonName (path : String) : Bool :=
  match path.toList with
  | first :: _ :: _ => first == '/' || first == '\\'
  | _ => false

/-- The parameters that an address makes of itself. -/
def ownParameters (wishes : Wishes) : List (String × String) :=
  (if wishes.immutable then [("immutable", "true")] else []) ++
    (wishes.fileSystem.map fun system => ("vfs", system)).toList

/-- The URL that the name at an address is, and whether it is one at all. -/
def urlOf? (address : Address) : Option (DatabaseUrl × Bool) :=
  let own := ownParameters address.wishes
  if !own.isEmpty then some (⟨address.name, own⟩, true)
  else
    match afterPrefix? DatabaseUrl.opening address.name.toList with
    | some rest => (DatabaseUrl.read? rest).map (·, true)
    | none => some (⟨address.name, []⟩, false)

/-- **The place of the database at an address**, if there can be one. -/
def ofAddress? (address : Address) : Option Location := do
  guard (!address.name.toList.contains '\x00')
  let (url, isUrl) ← urlOf? address
  let manner ← url.parameters.foldlM Manner.with? (.ofWishes address.wishes)
  let system := url.last? "vfs"
  guard (system.all fun s => s == memorySystem || fileSystems.contains s)
  let creates := manner.access == some .making
  let writable := manner.access != some .reading
  if url.path = "" then return ⟨.memory false, creates, writable⟩
  else if manner.inMemory ∨ url.path = Address.memoryName then
    return ⟨.memory (isUrl && manner.shared), creates, writable⟩
  else
    let writable := writable && !url.isSet "immutable"
    if system = some memorySystem then
      return ⟨.memory (manner.shared || isCommonName url.path), creates, writable⟩
    else return ⟨.file url.path, creates, writable⟩

end Location

end TagTimeline
