import TagTimeline.Database.Authority
import TagTimeline.Text.Percent

/-!
# Database Addresses

The address of a database is a URL. Of the schemes only `sqlite` is served; no server answers at
any other address. Behind the scheme stands the name of a database, or `:memory:` for one that lives
as long as its connections, and behind a question mark stand parameters: `mode` with `ro`, `rw`,
`rwc` or `memory`, `cache`, `immutable` and `vfs`.

## Main results

* `Address.read?` — the name and the parameters at an address.
-/

namespace TagTimeline

open Text

/-- How a database may be used. -/
inductive Access where
  /-- It can only be read. -/
  | reading
  /-- It can be read and changed. -/
  | changing
  /-- It can also be made. -/
  | making
  deriving DecidableEq, Repr

/-- What the parameters of an address ask for. -/
structure Wishes where
  readOnly : Bool
  creates : Bool
  inMemory : Bool
  /-- Whether the connections share what they keep of the database. -/
  shared : Bool
  /-- Whether the database is taken to change in no way. -/
  immutable : Bool
  /-- The file system that the database is looked for in. -/
  fileSystem : Option String
  deriving DecidableEq, Repr

namespace Wishes

/-- Nothing asked for. -/
def nothing : Wishes := ⟨false, false, false, false, false, none⟩

/-- How the database may be used. -/
def access (wishes : Wishes) : Access :=
  if wishes.readOnly then .reading else if wishes.creates then .making else .changing

/-- One parameter, if it is known. -/
def grant? (wishes : Wishes) : String × String → Option Wishes
  | ("mode", "ro") => some { wishes with readOnly := true }
  | ("mode", "rw") => some wishes
  | ("mode", "rwc") => some { wishes with creates := true }
  | ("mode", "memory") => some { wishes with inMemory := true, shared := true }
  | ("cache", "private") => some { wishes with shared := false }
  | ("cache", "shared") => some { wishes with shared := true }
  | ("immutable", "true") => some { wishes with immutable := true }
  | ("immutable", "1") => some { wishes with immutable := true }
  | ("immutable", "false") => some { wishes with immutable := false }
  | ("immutable", "0") => some { wishes with immutable := false }
  | ("vfs", system) => some { wishes with fileSystem := some system }
  | _ => none

end Wishes

/-- **Which database is meant, and what is asked for.** -/
structure Address where
  name : String
  wishes : Wishes
  deriving DecidableEq, Repr

namespace Address

/-- Whether a character is dropped from both ends of a URL. -/
def isMargin (c : Char) : Bool := c.toNat ≤ 0x20

/-- A URL as it is taken: without margins, and without tabs and line breaks anywhere. -/
def tidy (cs : List Char) : List Char :=
  ((((cs.dropWhile isMargin).reverse.dropWhile isMargin).reverse).filter fun c =>
    c != '\t' && c != '\n' && c != '\r')

/-- The scheme of a URL in lower case, and what follows its colon. -/
def scheme? (cs : List Char) : Option (String × List Char) :=
  let name := cs.takeWhile fun c => c.isAlphanum || c == '+' || c == '-' || c == '.'
  match name, cs.drop name.length with
  | first :: _, ':' :: rest =>
      if first.isAlpha then some (lowerAscii (String.ofList name), rest) else none
  | _, _ => none

/-- Whether a URL with this text behind its scheme is well-formed. -/
def isHierarchy (cs : List Char) : Bool :=
  match cs with
  | '/' :: '/' :: rest => Authority.isWellFormed rest
  | _ => true

/-- The scheme of databases in files and in memory. -/
def fileScheme : String := "sqlite"

/-- Whether a text is a URL of a database in a file or in memory. -/
def isServed (url : String) : Bool :=
  match scheme? (tidy url.toList) with
  | some (scheme, rest) => scheme == fileScheme && isHierarchy rest
  | none => false

/-- An address without its scheme. -/
def withoutScheme (cs : List Char) : List Char :=
  afterAll 's' "qlite:".toList (afterAll 's' "qlite://".toList cs)

/-- The parameters behind a question mark. -/
def wishes? (wishes : Wishes) (query : List Char) : Option Wishes :=
  ((splitAt '&' query).filter fun part => !part.isEmpty).foldlM
    (fun wishes part => (Percent.pair? part).bind wishes.grant?) wishes

/-- The name of a database in memory. -/
def memoryName : String := ":memory:"

/-- The name by which the connections of a program share a database in memory. -/
def sharedMemoryName : String := "file:shared-memory"

/-- **The database at an address**, if the address is one. -/
def read? (url : String) : Option Address :=
  if isServed url then do
    let rest := withoutScheme url.toList
    let name := String.ofList (rest.takeWhile (· != '?'))
    let query := (rest.dropWhile (· != '?')).drop 1
    if name = memoryName then
      return ⟨sharedMemoryName,
        ← wishes? { Wishes.nothing with inMemory := true, shared := true } query⟩
    else return ⟨← Percent.decode? name, ← wishes? .nothing query⟩
  else none

end Address

end TagTimeline
