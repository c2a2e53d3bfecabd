import TagTimeline.Config.Environment
import TagTimeline.Text.Alphanumeric

/-!
# Assignments of an Environment File

A line of an environment file gives a variable a value, after the optional word `export`. The value
may be quoted in parts. A dollar sign outside single quotes stands for the value of the variable
whose name follows, in braces or as far as letters and digits go. A backslash outside single quotes
escapes one of a few characters. Behind a blank outside quotes only a comment may follow.

## Main results

* `EnvFile.value?` — the text that a value stands for.
* `EnvFile.meaning` — what a line says.
-/

namespace TagTimeline.EnvFile

open Text

/-- Where a value stands after some characters. Names are kept with the last character first. -/
inductive ValueState where
  | text
  | escape
  /-- Between single quotes. -/
  | single
  /-- Behind a blank that ends the value. -/
  | ended
  /-- Behind a dollar sign. -/
  | name (reversed : List Char)
  /-- Behind a dollar sign and a brace. -/
  | braced (reversed : List Char)

/-- The value of the variable with a name; a variable that is not set has none. -/
def substitute (env : Environment) (reversed : List Char) : List Char :=
  ((env.get? (String.ofList reversed.reverse)).getD "").toList

/-- The character that an escape stands for. -/
def escaped? (c : Char) : Option Char :=
  if c = 'n' then some '\n'
  else if c = '\\' ∨ c = '\x27' ∨ c = '\x22' ∨ c = '$' ∨ c = ' ' then some c
  else none

/-- The text that the rest of a value stands for, behind text with the last character first.
`double` tells whether the rest starts between double quotes. -/
def valueFrom? (env : Environment) :
    ValueState → Bool → List Char → List Char → Option (List Char)
  | .ended, _, done, [] => some done.reverse
  | .ended, double, done, c :: rest =>
      if c = ' ' ∨ c = '\t' then valueFrom? env .ended double done rest
      else if c = '#' then some done.reverse
      else none
  | .escape, double, done, [] => if double then none else some done.reverse
  | .escape, double, done, c :: rest =>
      match escaped? c with
      | some e => valueFrom? env .text double (e :: done) rest
      | none => none
  | .single, _, _, [] => none
  | .single, double, done, c :: rest =>
      if c = '\x27' then valueFrom? env .text double done rest
      else valueFrom? env .single double (c :: done) rest
  | .name reversed, double, done, [] =>
      if double then none else some (done.reverse ++ substitute env reversed)
  | .name reversed, double, done, c :: rest =>
      if isAlphanumeric c then valueFrom? env (.name (c :: reversed)) double done rest
      else if c = '\x7b' ∧ reversed = [] then valueFrom? env (.braced []) double done rest
      else
        let done := (substitute env reversed).reverse ++ done
        if c = '$' then valueFrom? env (.name []) double done rest
        else valueFrom? env .text double (c :: done) rest
  | .braced _, _, _, [] => none
  | .braced reversed, double, done, c :: rest =>
      if c = '\x7d' then
        valueFrom? env .text double ((substitute env reversed).reverse ++ done) rest
      else valueFrom? env (.braced (c :: reversed)) double done rest
  | .text, double, done, [] => if double then none else some done.reverse
  | .text, double, done, c :: rest =>
      if c = '$' then valueFrom? env (.name []) double done rest
      else if c = '\\' then valueFrom? env .escape double done rest
      else if c = '\x22' then valueFrom? env .text (!double) done rest
      else if double then valueFrom? env .text double (c :: done) rest
      else if c = '\x27' then valueFrom? env .single double done rest
      else if c = ' ' ∨ c = '\t' then valueFrom? env .ended double done rest
      else valueFrom? env .text double (c :: done) rest

/-- **The text that a value stands for**, among some variables. -/
def value? (env : Environment) (cs : List Char) : Option String :=
  (valueFrom? env .text false [] cs).map String.ofList

/-- Whether a character may start the name of a variable. -/
def isNameStart (c : Char) : Bool := c.isAlpha || c == '_'

/-- Whether a character may stand in the name of a variable. -/
def isNamePart (c : Char) : Bool := c.isAlphanum || c == '_' || c == '.'

/-- The name of a variable, and the text behind it and the blanks there. -/
def name? (cs : List Char) : Option (List Char × List Char) :=
  match cs with
  | c :: _ =>
      if isNameStart c then some (cs.takeWhile isNamePart, trimStart (cs.dropWhile isNamePart))
      else none
  | [] => none

/-- The text behind an equals sign and the blanks there. -/
def afterEquals? : List Char → Option (List Char)
  | '=' :: rest => some (trimStart rest)
  | _ => none

/-- The variable that a line names, and the value behind the equals sign. -/
def target? (cs : List Char) : Option (List Char × List Char) := do
  let (name, rest) ← name? cs
  match afterEquals? rest with
  | some value => some (name, value)
  | none =>
      if name = "export".toList then
        let (name, rest) ← name? rest
        let value ← afterEquals? rest
        some (name, value)
      else none

/-- What a line says. -/
inductive LineMeaning where
  /-- It is empty or a comment. -/
  | nothing
  | assignment (name value : String)
  | malformed
  deriving DecidableEq, Repr

/-- Whether nothing follows but a comment. -/
def isIdle (cs : List Char) : Bool := cs.isEmpty || cs.head? == some '#'

/-- **What a line says**, among some variables. -/
def meaning (env : Environment) (line : List Char) : LineMeaning :=
  let line := trimStart (trimEnd line)
  if isIdle line then .nothing
  else
    match target? line with
    | none => .malformed
    | some (name, rest) =>
        if isIdle rest then .assignment (String.ofList name) ""
        else
          match value? env rest with
          | some value => .assignment (String.ofList name) value
          | none => .malformed

end TagTimeline.EnvFile
