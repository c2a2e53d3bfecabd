import TagTimeline.Files.Path
import TagTimeline.Toml.Reader

/-!
# Configuration Files

Files that hold a layer of settings, in TOML or JSON as their extension says. A name stands for the
file of just that name, and if there is none for the first file found by adding an extension.

There are more formats (YAML, INI, RON, JSON5), which are left out here; and where files in several
formats have one name, no order decides which of them is found. So results on loading assume that
a name has one file at most.

## Main results

* `Config.locate` — the file that a name stands for.
* `Config.Format.read?` — the settings that a text holds.
-/

namespace TagTimeline.Config

/-- A format of configuration files. -/
inductive Format where
  | toml
  | json
  deriving DecidableEq, Repr

namespace Format

/-- Every format that is read, in the order in which files are looked for here. -/
def all : List Format := [toml, json]

/-- The extension of files in a format. -/
def extension : Format → String
  | toml => "toml"
  | json => "json"

/-- The format of files with an extension. -/
def ofExtension? (extension : String) : Option Format :=
  all.find? fun format => format.extension == extension

/-- A text without the mark of its byte order. -/
def withoutByteOrderMark (text : String) : String :=
  match text.toList with
  | '\ufeff' :: rest => String.ofList rest
  | _ => text

/-- **The settings that a text in the format holds.** The mark of a byte order in front of the text
is no part of it. -/
def read? (format : Format) (text : String) : Option (List (String × Value)) :=
  match format with
  | toml => Toml.read? (withoutByteOrderMark text)
  | json => Value.ofJson? (withoutByteOrderMark text)

end Format

/-- How a file is found by its name: its text, if it exists. -/
abbrev FileReader := String → Option String

/-- **The file that a name stands for**, with its format. -/
def locate (files : FileReader) (name : String) : Option (Format × String) :=
  match files name with
  | some text =>
      (Format.ofExtension? (Path.extensionOf ((Path.parts name).getLast?.getD ""))).map (·, text)
  | none =>
      Format.all.findSome? fun format =>
        ((Path.withExtension? format.extension name).bind files).map (format, ·)

end TagTimeline.Config
