import TagTimeline.Config.Value

/-!
# Environment Variables

The variables a program is started with, and the settings among them. The names of settings begin
with a fixed word, in any case, and two underscores stand between the parts of a path. The text of
such a variable is taken as a flag or a number if it reads like one.

## Main results

* `Environment.settings` — the layer of settings that the variables make.
-/

namespace TagTimeline

open Config Number Text

/-- **The variables of a program**, each name once. -/
abbrev Environment := List (String × String)

namespace Environment

/-- The text of a variable, if it is set. -/
def get? (env : Environment) (name : String) : Option String := env.lookup name

/-- The variables with one more, unless it is set already. -/
def setNew (env : Environment) (name value : String) : Environment :=
  if (env.get? name).isSome then env else env ++ [(name, value)]

/-- How the names of settings begin, in lower case. -/
def settingStart : String := "qanda__"

/-- A name with a point for every two underscores. -/
def withPoints : List Char → List Char
  | '_' :: '_' :: rest => '.' :: withPoints rest
  | c :: rest => c :: withPoints rest
  | [] => []

/-- The name of the setting that a variable is for. -/
def settingName? (name : String) : Option String :=
  (afterPrefix? settingStart.toList (lowerAscii name).toList).map fun rest =>
    String.ofList (withPoints rest)

/-- **What the text of a variable means**: a flag, a whole number of 64 bits, any other number, or
else the text itself. -/
def valueOf (text : String) : Value :=
  let word := lowerAscii text
  if word = "true" then .flag true
  else if word = "false" then .flag false
  else
    match (readInt? text.toList).filter Value.isWhole64 with
    | some i => .whole i
    | none =>
        match Binary64.read? text.toList with
        | some x => .real x
        | none => .text text

/-- **The settings among the variables.** -/
def settings (env : Environment) : List (String × Value) :=
  env.filterMap fun (name, text) => (settingName? name).map (·, valueOf text)

end Environment

end TagTimeline
