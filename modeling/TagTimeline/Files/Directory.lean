import TagTimeline.Files.Path
import TagTimeline.Store.Basic

/-!
# The Working Directory

The files that a run of the program finds and leaves: texts, and databases that hold a store. There
is a directory wherever a file stands below it, and some are known although no file below them is.

A file is found by a text in two ways. To read it, every part of the text is followed in turn, so
all that stands before another part has to be a directory, also if the next part only goes back. A
database is looked for at the path that the text spells, where only names below a file are refused.

## Main results

* `Directory.get?_set` — a file that was written is found, and no other file has changed.
-/

namespace TagTimeline

/-- **What a file holds.** -/
inductive FileContent where
  | text (text : String)
  | database (store : Store)
  deriving DecidableEq

namespace FileContent

/-- How the bytes of every database begin. -/
def databaseMark : String := "SQLite format 3\x00"

/-- A file read as a text. Of a database only the beginning can be told. -/
def asText : FileContent → String
  | .text t => t
  | .database _ => databaseMark

end FileContent

/-- **The files of a directory**, by their paths. -/
structure Directory where
  files : List (Path × FileContent)
  /-- Directories that are known to be there. -/
  folders : List Path

namespace Directory

/-- A directory without files. -/
def empty : Directory := ⟨[], []⟩

instance : Inhabited Directory := ⟨empty⟩

/-- What a file holds, if it exists. -/
def get? (directory : Directory) (path : Path) : Option FileContent := directory.files.lookup path

/-- Files with one written or overwritten. -/
def setIn (path : Path) (content : FileContent) :
    List (Path × FileContent) → List (Path × FileContent)
  | [] => [(path, content)]
  | (p, c) :: rest => if p = path then (p, content) :: rest else (p, c) :: setIn path content rest

/-- Writes a file. -/
def set (directory : Directory) (path : Path) (content : FileContent) : Directory :=
  { directory with files := setIn path content directory.files }

/-- Whether a path leads to a directory. Whatever contains the directory is one. -/
def hasFolder (directory : Directory) (path : Path) : Bool :=
  path.all (· == Path.back) || directory.folders.contains path ||
    directory.files.any fun file => path.length < file.1.length && path.isPrefixOf file.1

/-- Where some parts lead from a path, if all that has parts behind it is a directory. -/
def follow? (directory : Directory) (path : Path) : List String → Option Path
  | [] => some path
  | part :: rest =>
      if directory.hasFolder path ∧ Path.isName part then directory.follow? (path.step part) rest
      else none

/-- The text of the file that a text leads to. -/
def read? (directory : Directory) (name : String) : Option String :=
  if Path.isAbsolute name then none
  else
    ((directory.follow? [] (Path.parts name)).bind directory.get?).map FileContent.asText

/-- The path that a text spells, unless a name on its way stands below a file or is none. There are
no absolute paths here: databases are assumed to be in the directory or to be named from it. -/
def place? (directory : Directory) (name : String) : Option Path :=
  if Path.isAbsolute name then none
  else
    let parts := Path.parts name
    let isBelowFile (path : Path) : Bool :=
      directory.files.any fun file => file.1.length < path.length && file.1.isPrefixOf path
    if parts.all Path.isName ∧ !(Path.stages [] parts).any isBelowFile then
      some (parts.foldl Path.step [])
    else none

/-- **A file that was written is found, and no other file has changed.** -/
theorem get?_set (directory : Directory) (path other : Path) (content : FileContent) :
    (directory.set path content).get? other =
      if other = path then some content else directory.get? other := by
  obtain ⟨files, folders⟩ := directory
  simp only [get?, set]
  induction files with
  | nil =>
      by_cases h : other = path
      · subst h; simp [setIn]
      · have : (other == path) = false := by simpa using h
        simp [setIn, List.lookup_cons, this, h]
  | cons file rest ih =>
      obtain ⟨p, c⟩ := file
      by_cases hp : p = path
      · subst hp
        by_cases h : other = p
        · subst h; simp [setIn]
        · have : (other == p) = false := by simpa using h
          simp [setIn, List.lookup_cons, this, h]
      · simp only [setIn, if_neg hp, List.lookup_cons]
        by_cases h : other = p
        · subst h; simp [hp]
        · have : (other == p) = false := by simpa using h
          simp only [this, ih]

end Directory

end TagTimeline
