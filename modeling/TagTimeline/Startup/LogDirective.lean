import TagTimeline.Startup.ValuePattern
import TagTimeline.Text.Alphanumeric
import TagTimeline.Text.Blank

/-!
# Log Directives

One part of a log filter: `target[span{field=value}]=level`, of which most may be missing. A part
that is a level says it for all targets; one that is only a target asks for everything. A level is
a word in any case or a number from 0, nothing, to 5, everything.

Blanks around a directive play no part in finding its marks, but the places of the marks, counted
in bytes behind the leading blanks, are then looked up in the text with its blanks. So blanks in
front move every part of the directive toward them, and a part may come to start or end within a
character.

## Main results

* `LogDirective.read?` — the directive that a text spells.
-/

namespace TagTimeline

open Text

/-- **How important a log event is.** -/
inductive LogLevel where
  | error
  | warn
  | info
  | debug
  | trace
  deriving DecidableEq, Repr

namespace LogLevel

/-- How much has to be written for a level to be among it. -/
def verbosity : LogLevel → Nat
  | error => 1
  | warn => 2
  | info => 3
  | debug => 4
  | trace => 5

/-- The name of a level. -/
def name : LogLevel → String
  | error => "ERROR"
  | warn => "WARN"
  | info => "INFO"
  | debug => "DEBUG"
  | trace => "TRACE"

/-- The greatest verbosity. -/
def everything : Nat := trace.verbosity

/-- The verbosity that a word stands for. -/
def verbosityOf? (word : List Char) : Option Nat :=
  match (readUnsigned? word).filter (· ≤ everything) with
  | some n => some n
  | none =>
      match lowerAscii (String.ofList word) with
      | "" => some error.verbosity
      | "error" => some error.verbosity
      | "warn" => some warn.verbosity
      | "info" => some info.verbosity
      | "debug" => some debug.verbosity
      | "trace" => some trace.verbosity
      | "off" => some 0
      | _ => none

end LogLevel

/-- **A directive of a log filter.** -/
structure LogDirective where
  /-- How the targets begin that it is about. -/
  target : Option String
  /-- The name of a span that the events lie in. -/
  span : Option String
  /-- The name of a field, and whether a value is asked for. -/
  field : Option (String × Bool)
  /-- Up to which verbosity events are written. -/
  verbosity : Nat
  deriving DecidableEq, Repr

/-- Why a text is no log directive. -/
inductive DirectiveFault where
  /-- It breaks the form of directives. -/
  | malformed
  /-- A part of it starts or ends within a character. -/
  | splitCharacter
  deriving DecidableEq, Repr

namespace LogDirective

/-- What comes of reading a part of a directive. -/
abbrev Reading (α : Type) := Except DirectiveFault α

/-- The text without so many bytes in front, unless these end within a character. -/
def dropBytes (count : Nat) : List Char → Reading (List Char)
  | [] => if count = 0 then .ok [] else .error .splitCharacter
  | c :: cs =>
      if count = 0 then .ok (c :: cs)
      else if c.utf8Size ≤ count then dropBytes (count - c.utf8Size) cs
      else .error .splitCharacter

/-- So many bytes of a text, unless these end within a character. -/
def takeBytes (count : Nat) : List Char → Reading (List Char)
  | [] => if count = 0 then .ok [] else .error .splitCharacter
  | c :: cs =>
      if count = 0 then .ok []
      else if c.utf8Size ≤ count then (takeBytes (count - c.utf8Size) cs).map (c :: ·)
      else .error .splitCharacter

/-- How many bytes a text has. -/
def byteCount (cs : List Char) : Nat := cs.foldr (fun c bytes => c.utf8Size + bytes) 0

/-- The bytes of a text from one place up to another. -/
def cut (text : List Char) (start stop : Nat) : Reading (List Char) := do
  takeBytes (stop - start) (← dropBytes start text)

/-- Something that may be malformed. -/
def wellFormed {α : Type} : Option α → Reading α
  | some a => .ok a
  | none => .error .malformed

/-- Whether a character may start a directive, other than the bracket of a span. -/
def isStart (c : Char) : Bool := isAlphanumeric c || c == '-' || c == ':' || c == '_'

/-- The verbosity behind an equals sign, from a place to the end; nothing stands for everything. -/
def levelFrom (text : List Char) (start : Nat) : Reading Nat := do
  match ← dropBytes start text with
  | [] => .ok LogLevel.everything
  | word => wellFormed (LogLevel.verbosityOf? word)

/-- The verbosity of a directive with a span, from the place behind the closing bracket. -/
def levelBehindSpan (text : List Char) (start : Nat) : List Char → Reading Nat
  | [] => .ok LogLevel.everything
  | '=' :: _ => levelFrom text (start + 1)
  | _ => .error .malformed

/-- A field, and whether a value is asked for. A value is a flag, a number or a pattern. -/
def fieldOf (cs : List Char) : Reading (String × Bool) :=
  match splitAt '=' cs with
  | [] => .error .malformed
  | [name] => if name.isEmpty then .error .malformed else .ok (String.ofList name, false)
  | name :: value :: _ =>
      if ValuePattern.isValue value then .ok (String.ofList name, true) else .error .malformed

/-- The rest of a directive, from the place behind the opening bracket of its span. -/
def behindBracket (target : Option String) (text : List Char) (start : Nat) (rest : List Char) :
    Reading LogDirective := do
  let name := rest.takeWhile fun c => c != ']' && c != '\x7b'
  let stop := start + byteCount name
  match rest.drop name.length with
  | ']' :: rest => do
      let span ← cut text start stop
      let verbosity ← levelBehindSpan text (stop + 1) rest
      return ⟨target, some (String.ofList span), none, verbosity⟩
  | _ :: rest => do
      let span ← cut text start stop
      let inner := rest.takeWhile (· != '\x7d')
      let innerStop := stop + 1 + byteCount inner
      match rest.drop inner.length with
      | '\x7d' :: rest => do
          let field ← fieldOf (← cut text (stop + 1) innerStop)
          match rest with
          | ']' :: rest => do
              let verbosity ← levelBehindSpan text (innerStop + 2) rest
              return ⟨target, if span.isEmpty then none else some (String.ofList span), some field,
                verbosity⟩
          | _ => .error .malformed
      | _ => .error .malformed
  | [] => .error .malformed

/-- **The directive that a text spells.** -/
def read (text : List Char) : Reading LogDirective :=
  let trimmed := trimStart (trimEnd text)
  match trimmed with
  | [] => .error .malformed
  | '[' :: rest => behindBracket none text 1 rest
  | first :: _ =>
      if !isStart first then .error .malformed
      else
        let name := trimmed.takeWhile fun c => c != '=' && c != '['
        let stop := byteCount name
        match trimmed.drop name.length with
        | [] =>
            match LogLevel.verbosityOf? text with
            | some verbosity => .ok ⟨none, none, none, verbosity⟩
            | none => .ok ⟨some (String.ofList text), none, none, LogLevel.everything⟩
        | '=' :: _ => do
            let target ← cut text 0 stop
            let verbosity ← levelFrom text (stop + 1)
            return ⟨some (String.ofList target), none, none, verbosity⟩
        | _ :: rest => do
            let target ← cut text 0 stop
            behindBracket (some (String.ofList target)) text (stop + 1) rest

/-- Whether the directive is bound to spans or fields. -/
def isBound (directive : LogDirective) : Bool :=
  directive.span.isSome || directive.field.isSome

end LogDirective

end TagTimeline
