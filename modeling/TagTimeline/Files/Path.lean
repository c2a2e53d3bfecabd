import TagTimeline.Text.Blank

/-!
# Paths

The paths of files and directories as seen from one directory, as the names on the way. A text is
taken apart at its slashes; empty parts and single points say nothing, and two points go one name
back. A text that starts with a slash does not start at the directory and has no path here.

## Main results

* `Path.ofText?` — the path that a text spells.
* `Path.withExtension?` — a text with an extension added to its last name.
-/

namespace TagTimeline

open Text

/-- **A path from the directory**: the names on the way. Only its first names can be two points,
each of which leads out of the directory. -/
abbrev Path := List String

namespace Path

/-- The part that goes one name back. -/
def back : String := ".."

/-- The parts of a text between slashes. -/
def parts (text : String) : List String := (splitAt '/' text.toList).map String.ofList

/-- Whether a part says nothing. -/
def isIdle (part : String) : Bool := part == "" || part == "."

/-- Whether a text spells a path that does not start at the directory. -/
def isAbsolute (text : String) : Bool := text.toList.head? == some '/'

/-- A path followed by one part more. -/
def step (path : Path) (part : String) : Path :=
  if isIdle part then path
  else if part = back ∧ path.any (· != back) then path.dropLast
  else path ++ [part]

/-- The paths on the way that some parts make from a path, the path itself among them. -/
def stages (path : Path) : List String → List Path
  | [] => [path]
  | part :: rest => path :: stages (path.step part) rest

/-- **The path that a text spells.** -/
def ofText? (text : String) : Option Path :=
  if isAbsolute text then none else some ((parts text).foldl step [])

/-- The parts of a text without those behind its last name that say nothing. -/
def withoutIdleEnd (parts : List String) : List String := (parts.reverse.dropWhile isIdle).reverse

/-- A text with an extension added to its last name; what says nothing behind that name is left
out. -/
def withExtension? (extension text : String) : Option String :=
  let kept := withoutIdleEnd (parts text)
  match kept.getLast? with
  | none => none
  | some name => if name = back then none else some ("/".intercalate kept ++ "." ++ extension)

/-- The extension of a name: what follows its last point, if that is not its first character. -/
def extensionOf (name : String) : String :=
  match name.toList with
  | [] => ""
  | first :: rest =>
      if rest.contains '.' then
        String.ofList (((splitAt '.' (first :: rest)).getLast?).getD [])
      else ""

/-- The greatest number of bytes of a name. -/
def maxNameLength : Nat := 255

/-- Whether a text can be the name of a file. -/
def isName (name : String) : Bool :=
  name.utf8ByteSize ≤ maxNameLength && !name.toList.contains '\x00'

end Path

end TagTimeline
