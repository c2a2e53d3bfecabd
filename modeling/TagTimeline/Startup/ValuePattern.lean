import TagTimeline.Number.Binary64

/-!
# Value Patterns

The values that a log directive may ask of a field: a flag, a number, or a regular expression. Of
an expression only its form matters here: groups and classes are closed, a repetition repeats
something, and a backslash has a character behind it. Braces and commas cannot occur in a value
other than an opening brace, which therefore never is part of a count.

## Main results

* `ValuePattern.isValue` — whether a text can be such a value.
-/

namespace TagTimeline.ValuePattern

open Text Number

/-- Whether a letter or digit has a meaning behind a backslash that needs nothing more. -/
def isClassLetter (c : Char) : Bool := "aftnrvdDsSwWAzbB".toList.contains c

/-- The text behind an escape, from the character behind its backslash. -/
def skipEscape? (cs : List Char) : Option (List Char) :=
  match cs with
  | 'x' :: a :: b :: rest =>
      if (digitIn? 16 a).isSome && (digitIn? 16 b).isSome then some rest else none
  | 'p' :: c :: rest => if c.isAlpha then some rest else none
  | 'P' :: c :: rest => if c.isAlpha then some rest else none
  | c :: rest =>
      if isClassLetter c || (c.toNat < 0x80 && !c.isAlphanum && c != '<' && c != '>') then some rest
      else none
  | [] => none

/-- The text behind the start of a class: a caret, and then brackets and hyphens that stand for
themselves. -/
def skipClassStart (cs : List Char) : List Char :=
  let cs := match cs with
    | '^' :: rest => rest
    | _ => cs
  match cs with
  | ']' :: rest => rest
  | _ => cs.dropWhile (· == '-')

/-- The text behind so many open classes, which all have to be closed. -/
def skipClasses? : Nat → Nat → List Char → Option (List Char)
  | 0, _, _ => none
  | _, 0, cs => some cs
  | _, _, [] => none
  | steps + 1, depth + 1, c :: rest =>
      if c = ']' then skipClasses? steps depth rest
      else if c = '[' then skipClasses? steps (depth + 2) (skipClassStart rest)
      else if c = '\\' then (skipEscape? rest).bind (skipClasses? steps (depth + 1))
      else skipClasses? steps (depth + 1) rest

/-- The text behind the start of a group, from the character behind its parenthesis: a name, or
flags, of which a colon ends those that open a group. There is a mark whether a group is open. -/
def skipGroupStart? (cs : List Char) : Option (Bool × List Char) :=
  let named (rest : List Char) : Option (Bool × List Char) :=
    let name := rest.takeWhile (· != '>')
    match name, rest.drop name.length with
    | first :: _, '>' :: rest =>
        if !isDigit first && name.all fun c => c.isAlphanum || c == '_' then some (true, rest)
        else none
    | _, _ => none
  match cs with
  | '?' :: 'P' :: '<' :: rest => named rest
  | '?' :: '<' :: rest => named rest
  | '?' :: rest =>
      let flags := rest.takeWhile fun c => "imsRUux-".toList.contains c
      match rest.drop flags.length with
      | ':' :: rest => some (true, rest)
      | ')' :: rest => if flags.isEmpty then none else some (false, rest)
      | _ => none
  | _ => some (true, cs)

/-- Whether a text is a regular expression inside so many groups. `repeatable` tells whether a
repetition may follow. -/
def isPatternFrom : Nat → Nat → Bool → List Char → Bool
  | 0, _, _, _ => false
  | _, groups, _, [] => groups == 0
  | steps + 1, groups, repeatable, c :: rest =>
      if c = '(' then
        match skipGroupStart? rest with
        | some (true, rest) => isPatternFrom steps (groups + 1) false rest
        | some (false, rest) => isPatternFrom steps groups false rest
        | none => false
      else if c = ')' then groups != 0 && isPatternFrom steps (groups - 1) true rest
      else if c = '|' then isPatternFrom steps groups false rest
      else if c = '*' ∨ c = '+' ∨ c = '?' then repeatable && isPatternFrom steps groups true rest
      else if c = '\x7b' then false
      else if c = '[' then
        match skipClasses? (rest.length + 2) 1 (skipClassStart rest) with
        | some rest => isPatternFrom steps groups true rest
        | none => false
      else if c = '\\' then
        match skipEscape? rest with
        | some rest => isPatternFrom steps groups true rest
        | none => false
      else isPatternFrom steps groups true rest

/-- Whether a text is a regular expression. -/
def isPattern (cs : List Char) : Bool := isPatternFrom (cs.length + 1) 0 false cs

/-- **Whether a text can be the value of a field.** -/
def isValue (cs : List Char) : Bool :=
  cs == "true".toList || cs == "false".toList || (Binary64.read? cs).isSome || isPattern cs

end TagTimeline.ValuePattern
