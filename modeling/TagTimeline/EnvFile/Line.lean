import TagTimeline.Text.Blank

/-!
# Lines of an Environment File

How the text of an environment file falls into lines. A quoted text may hold line breaks, so a line
ends where the text does or where a line break stands outside quotes. A mark `#` right behind a
blank that is outside quotes starts a comment, and everything from there to the line break is left
out; a line that starts with the mark is a comment as a whole. A text that ends within quotes, or
with a blank, breaks off.

A blank counts as one only if no other blank stands right before it: two in a row separate nothing.

## Main results

* `EnvFile.lines` — the lines of a text, up to where it breaks off.
-/

namespace TagTimeline.EnvFile

open Text

/-- Where a line stands after some characters. -/
inductive LineState where
  | plain
  /-- Behind a backslash outside quotes. -/
  | escape
  /-- Behind a blank that separates. -/
  | blank
  /-- Between quotes of a kind. -/
  | quoted (quote : Char)
  /-- Behind a backslash between quotes. -/
  | quotedEscape (quote : Char)
  deriving DecidableEq, Repr

/-- Whether a blank separates words of one line. -/
def isSeparator (c : Char) : Bool := isBlank c && c != '\n' && c != '\r'

/-- How a character outside quotes and behind no blank changes the state. -/
def LineState.ofPlain (c : Char) : LineState :=
  if c = '\\' then .escape
  else if c = '\x22' ∨ c = '\x27' then .quoted c
  else .plain

/-- The state behind one character more; none if it starts a comment. -/
def LineState.next? : LineState → Char → Option LineState
  | .plain, c => some (if isSeparator c then .blank else .ofPlain c)
  | .escape, _ => some .plain
  | .blank, c => if c = '#' then none else some (.ofPlain c)
  | .quoted quote, c =>
      some (if c = '\\' then .quotedEscape quote
        else if c = quote then .plain
        else .quoted quote)
  | .quotedEscape quote, _ => some (.quoted quote)

/-- What a run of characters makes of a line. -/
inductive Scan where
  /-- The state behind the run. -/
  | open (state : LineState)
  /-- A comment starts behind so many characters. -/
  | comment (count : Nat)

/-- Runs through some characters, of which some have been counted already. -/
def scan (state : LineState) (count : Nat) : List Char → Scan
  | [] => .open state
  | c :: cs =>
      match state.next? c with
      | none => .comment count
      | some state => scan state (count + 1) cs

/-- The stretches of a text that end with line breaks, and what is left. -/
def stretches : List Char → List (List Char)
  | [] => []
  | c :: cs =>
      if c = '\n' then [c] :: stretches cs
      else
        match stretches cs with
        | [] => [[c]]
        | stretch :: more => (c :: stretch) :: more

/-- A line without the line break at its end. -/
def withoutBreak (line : List Char) : List Char :=
  match line.reverse with
  | '\n' :: '\r' :: rest => rest.reverse
  | '\n' :: rest => rest.reverse
  | _ => line

/-- Whether a line is a comment as a whole. -/
def isComment (line : List Char) : Bool := (trimStart line).head? == some '#'

/-- The lines that some stretches make behind the start of one. There is a nothing at the end if the
text breaks off. -/
def linesFrom (start : List Char) (state : LineState) : List (List Char) → List (Option (List Char))
  | [] => if state = .plain then [] else [none]
  | stretch :: more =>
      let line := start ++ stretch
      if isComment line then linesFrom [] .plain more
      else
        match scan state 0 stretch with
        | .comment count => some (start ++ stretch.take count) :: linesFrom [] .plain more
        | .open .plain => some (withoutBreak line) :: linesFrom [] .plain more
        | .open state => linesFrom line state more

/-- **The lines of a text**, with a nothing at the end if it breaks off. -/
def lines (text : List Char) : List (Option (List Char)) := linesFrom [] .plain (stretches text)

end TagTimeline.EnvFile
