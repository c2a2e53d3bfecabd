import TagTimeline.Toml.Quoted
import TagTimeline.Toml.Scalar
import TagTimeline.Toml.Tree

/-!
# Reading TOML

A TOML text is a run of lines, each empty, a header, or a key with its value; a comment may end
every line. The lines are read into statements, and the statements build the tables. Every step
takes at least one character, so a text has at most as many steps as characters.

Arrays and inline tables may be nested, and keys may have parts, only up to a bound.

## Main results

* `Toml.read?` — the table that a text describes.
-/

namespace TagTimeline.Toml

open Config

/-- The text without the blanks of one line in front of it. -/
def skipBlanks (cs : List Char) : List Char := cs.dropWhile fun c => c == ' ' || c == '\t'

/-- The text behind a comment, which ends with its line; there may be none. -/
def skipComment? (cs : List Char) : Option (List Char) :=
  match cs with
  | '#' :: rest =>
      let comment := rest.takeWhile fun c => c != '\n'
      let body := if comment.getLast? = some '\r' then comment.dropLast else comment
      let rest := rest.drop body.length
      if body.any Quoted.isControl then none else some rest
  | _ => some cs

/-- The text behind a line break. -/
def lineBreak? : List Char → Option (List Char)
  | '\n' :: rest => some rest
  | '\r' :: '\n' :: rest => some rest
  | _ => none

/-- The text behind the end of a line, which may be the end of the text. -/
def endOfLine? (cs : List Char) : Option (List Char) := do
  let rest ← skipComment? (skipBlanks cs)
  if rest.isEmpty then some [] else lineBreak? rest

/-- The text behind blanks, comments and line breaks. -/
def skipTrivia? : Nat → List Char → Option (List Char)
  | 0, _ => none
  | steps + 1, cs => do
      let rest ← skipComment? (skipBlanks cs)
      match lineBreak? rest with
      | some rest => skipTrivia? steps rest
      | none => some rest

/-- Whether a character may stand in a key without quotes. -/
def isBareKey (c : Char) : Bool := c.isAlphanum || c == '_' || c == '-'

/-- One part of a key. -/
def keyPart? (cs : List Char) : Option (String × List Char) :=
  match cs with
  | '\x22' :: _ => Quoted.readLine? cs
  | '\x27' :: _ => Quoted.readLine? cs
  | _ =>
      let name := cs.takeWhile isBareKey
      if name.isEmpty then none else some (String.ofList name, cs.dropWhile isBareKey)

/-- The bound on the depth of nested values and on the number of a key's parts, which both stay
below it. -/
def bound : Nat := 80

/-- The parts of a key but the last, its last part, and the text behind it and the blanks there. -/
def keyParts? : Nat → List Char → Option (List String × String × List Char)
  | 0, _ => none
  | steps + 1, cs => do
      let (name, rest) ← keyPart? (skipBlanks cs)
      match skipBlanks rest with
      | '.' :: rest => do
          let (path, key, rest) ← keyParts? steps rest
          some (name :: path, key, rest)
      | rest => some ([], name, rest)

/-- A key: its parts but the last, its last part, and the text behind it and the blanks there. -/
def key? (steps : Nat) (cs : List Char) : Option (List String × String × List Char) :=
  (keyParts? steps cs).filter fun (path, _) => path.length + 1 < bound

mutual

/-- A value, from its first character, inside so many arrays and inline tables. -/
def value? (depth : Nat) : Nat → List Char → Option (Node × List Char)
  | 0, _ => none
  | steps + 1, cs =>
      match cs with
      | '[' :: rest => do
          guard (depth + 1 < bound)
          let (items, rest) ← items? (depth + 1) steps rest
          some (.items items, rest)
      | '\x7b' :: rest => do
          guard (depth + 1 < bound)
          match skipBlanks rest with
          | '\x7d' :: rest => some (.table .inline [], rest)
          | rest =>
              let (assignments, rest) ← assignments? (depth + 1) steps rest
              let table ← Tree.inline? assignments
              some (table, rest)
      | '\x22' :: _ => (Quoted.read? cs).map fun (text, rest) => (.leaf (.text text), rest)
      | '\x27' :: _ => (Quoted.read? cs).map fun (text, rest) => (.leaf (.text text), rest)
      | _ =>
          let (run, rest) := Scalar.takeRun cs
          match Scalar.read? run with
          | some value => some (.leaf value, rest)
          | none => (Moment.read? Moment.plain run).map fun text => (.moment text, rest)

/-- The items of an array behind its opening bracket or a comma, up to its closing bracket. -/
def items? (depth : Nat) : Nat → List Char → Option (List Node × List Char)
  | 0, _ => none
  | steps + 1, cs => do
      match ← skipTrivia? (steps + 1) cs with
      | ']' :: rest => some ([], rest)
      | cs => do
          let (item, rest) ← value? depth steps cs
          match ← skipTrivia? (steps + 1) rest with
          | ']' :: rest => some ([item], rest)
          | ',' :: rest => do
              let (items, rest) ← items? depth steps rest
              some (item :: items, rest)
          | _ => none

/-- The assignments of an inline table, up to its closing brace. -/
def assignments? (depth : Nat) :
    Nat → List Char → Option (List (List String × String × Node) × List Char)
  | 0, _ => none
  | steps + 1, cs => do
      let (path, key, rest) ← key? (steps + 1) cs
      match rest with
      | '=' :: rest => do
          let (value, rest) ← value? depth steps (skipBlanks rest)
          match skipBlanks rest with
          | '\x7d' :: rest => some ([(path, key, value)], rest)
          | ',' :: rest => do
              let (assignments, rest) ← assignments? depth steps rest
              some ((path, key, value) :: assignments, rest)
          | _ => none
      | _ => none

end

/-- A statement, from its first character. -/
def statement? (steps : Nat) (cs : List Char) : Option (Statement × List Char) :=
  match cs with
  | '[' :: '[' :: rest => do
      let (path, key, rest) ← key? steps rest
      match rest with
      | ']' :: ']' :: rest => some (.openElement (path ++ [key]), rest)
      | _ => none
  | '[' :: rest => do
      let (path, key, rest) ← key? steps rest
      match rest with
      | ']' :: rest => some (.openTable (path ++ [key]), rest)
      | _ => none
  | _ => do
      let (path, key, rest) ← key? steps cs
      match rest with
      | '=' :: rest => do
          let (value, rest) ← value? 0 steps (skipBlanks rest)
          some (.assign path key value, rest)
      | _ => none

/-- The statements of a text. -/
def statements? : Nat → List Char → Option (List Statement)
  | 0, _ => none
  | steps + 1, cs =>
      match skipBlanks cs with
      | [] => some []
      | c :: rest =>
          if c = '#' ∨ c = '\n' ∨ c = '\r' then
            (endOfLine? (c :: rest)).bind fun rest => statements? steps rest
          else do
            let (statement, rest) ← statement? (steps + 1) (c :: rest)
            let rest ← endOfLine? rest
            let more ← statements? steps rest
            some (statement :: more)

/-- A text without the mark of its byte order. -/
def withoutByteOrderMark : List Char → List Char
  | '\ufeff' :: rest => rest
  | cs => cs

/-- **The table that a text describes**, if the text is TOML. -/
def read? (text : String) : Option (List (String × Value)) :=
  let cs := withoutByteOrderMark text.toList
  (statements? (cs.length + 1) cs).bind Tree.build?

end TagTimeline.Toml
