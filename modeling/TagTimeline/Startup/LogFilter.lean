import TagTimeline.Config.Environment
import TagTimeline.Startup.LogDirective

/-!
# Log Filters

Which log events are written. A filter is a list of directives with commas between them. Outside of
spans, a directive counts only if it names no span and asks for no value; it is then a rule about
the events whose target begins as it says and that have the field it names, if it names one.

Of the rules about an event the one with the longest target decides; of two with the same target
one with a field goes before one without, and of two with fields the one whose field is later in
the order of text. Of two rules about the same the later one counts, where directives without
brackets are all taken before those with brackets.

## Main results

* `LogFilter.read` — the filter that a text spells.
* `LogFilter.enables` — whether an event is written.
-/

namespace TagTimeline

open Text

/-- **What a filter says of some events**: up to which verbosity they are written. -/
structure LogRule where
  /-- How the targets begin that it is about; without one it is about all. -/
  target : Option String
  /-- The field that the events have to have. -/
  field : Option String
  verbosity : Nat
  deriving DecidableEq, Repr

namespace LogRule

/-- Whether the rule is about events with a target and fields. -/
def concerns (rule : LogRule) (target : String) (fields : List String) : Bool :=
  rule.target.all (fun t => t.toList.isPrefixOf target.toList) && rule.field.all (fields.contains ·)

/-- How long the target is; having none is shorter than any. -/
def targetLength (rule : LogRule) : Nat := (rule.target.map fun t => t.utf8ByteSize + 1).getD 0

/-- Whether a rule about the same event gives way to another, given after it. -/
def yieldsTo (rule other : LogRule) : Bool :=
  if rule.targetLength ≠ other.targetLength then rule.targetLength < other.targetLength
  else
    match rule.field, other.field with
    | none, _ => true
    | some _, none => false
    | some name, some otherName => name ≤ otherName

end LogRule

/-- The rule that a directive makes for events outside of spans. -/
def LogDirective.rule? (directive : LogDirective) : Option LogRule :=
  match directive.span, directive.field with
  | none, none => some ⟨directive.target, none, directive.verbosity⟩
  | none, some (name, false) => some ⟨directive.target, some name, directive.verbosity⟩
  | _, _ => none

/-- **Which events are written**: the rules, the first given first. -/
abbrev LogFilter := List LogRule

namespace LogFilter

/-- A filter for errors alone. -/
def errorsOnly : LogFilter := [⟨none, none, LogLevel.error.verbosity⟩]

/-- The filter that some directives make. Without any directive only errors are written. -/
def ofDirectives (directives : List LogDirective) : LogFilter :=
  if directives.isEmpty then errorsOnly
  else
    (directives.filter (!·.isBound) ++ directives.filter (·.isBound)).filterMap
      LogDirective.rule?

/-- **The filter that a text spells.** -/
def read (text : String) : Except DirectiveFault LogFilter :=
  let parts := (splitAt ',' text.toList).filter fun part => !part.isEmpty
  (parts.mapM LogDirective.read).map ofDirectives

/-- The rule that decides about an event with a target and fields. -/
def decisive? (filter : LogFilter) (target : String) (fields : List String) : Option LogRule :=
  (filter.filter (·.concerns target fields)).foldl
    (fun found rule =>
      match found with
      | some old => if old.yieldsTo rule then some rule else some old
      | none => some rule)
    none

/-- **Whether an event is written.** -/
def enables (filter : LogFilter) (target : String) (fields : List String) (level : LogLevel) :
    Bool :=
  (filter.decisive? target fields).any fun rule => level.verbosity ≤ rule.verbosity

/-- The target of the program's own events. -/
def ownTarget : String := "qanda"

/-- The filter that is used unless another is given. -/
def standard : LogFilter := [⟨some ownTarget, none, LogLevel.debug.verbosity⟩]

/-- The variable that a filter is given in. -/
def variableName : String := "RUST_LOG"

/-- The filter that some environment variables ask for; a malformed one counts as not given. There
is none if a directive in it is split within a character. -/
def ofEnvironment? (env : Environment) : Option LogFilter :=
  match (env.get? variableName).map read with
  | some (.ok filter) => some filter
  | some (.error .splitCharacter) => none
  | _ => some standard

end LogFilter

end TagTimeline
