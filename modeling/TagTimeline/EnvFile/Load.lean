import TagTimeline.EnvFile.Assignment
import TagTimeline.EnvFile.Line

/-!
# Loading an Environment File

The lines of an environment file set variables one after the other. A variable that is set already
keeps its value. The first line that is malformed ends the file; the lines before it count. No
variable can hold a NUL character, and a line that would set one to such a value stops the program.

## Main results

* `EnvFile.load` — the variables with those of a file.
-/

namespace TagTimeline.EnvFile

/-- How the reading of a file ends. -/
inductive Completion where
  /-- All of it has been read. -/
  | complete
  /-- A line is malformed. -/
  | malformed
  /-- A variable was to hold a NUL character. -/
  | aborted
  deriving DecidableEq, Repr

/-- Whether a line would set a variable to a value that it cannot hold. -/
def isImpossible (env : Environment) (name value : String) : Bool :=
  (env.get? name).isNone && value.toList.contains '\x00'

/-- The variables after some lines, and how the reading ends. -/
def loadLines : List (Option (List Char)) → Environment → Environment × Completion
  | [], env => (env, .complete)
  | none :: _, env => (env, .malformed)
  | some line :: more, env =>
      match meaning env line with
      | .nothing => loadLines more env
      | .assignment name value =>
          if isImpossible env name value then (env, .aborted)
          else loadLines more (env.setNew name value)
      | .malformed => (env, .malformed)

/-- A text without the mark of its byte order. -/
def withoutMark : List Char → List Char
  | '\ufeff' :: rest => rest
  | cs => cs

/-- **The variables with those of a file**, and how the reading of the file ends. -/
def load (text : String) (env : Environment) : Environment × Completion :=
  loadLines (lines (withoutMark text.toList)) env

end TagTimeline.EnvFile
