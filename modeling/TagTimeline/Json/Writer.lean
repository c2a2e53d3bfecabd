import TagTimeline.Json.Document
import TagTimeline.Text.Integer

/-!
# Writing JSON Documents

The compact written form of a document: no blanks, members in their order, and in a string an
escape only where JSON demands one, the one-letter escape where there is one.
-/

namespace TagTimeline.Json

open TagTimeline.Text

/-- The digit of a hexadecimal number, letters in lower case. -/
def hexDigit (n : Nat) : Char :=
  if n < 10 then Char.ofNat (n + '0'.toNat) else Char.ofNat (n - 10 + 'a'.toNat)

/-- One character of a string in writing. -/
def renderChar (c : Char) : List Char :=
  if c = '\x22' then ['\x5c', '\x22']
  else if c = '\x5c' then ['\x5c', '\x5c']
  else if c = '\x08' then ['\x5c', 'b']
  else if c = '\x0c' then ['\x5c', 'f']
  else if c = '\n' then ['\x5c', 'n']
  else if c = '\r' then ['\x5c', 'r']
  else if c = '\t' then ['\x5c', 't']
  else if c.toNat < 0x20 then
    ['\x5c', 'u', '0', '0', hexDigit (c.toNat / 16), hexDigit (c.toNat % 16)]
  else [c]

/-- A string in writing. One without a text is written as half of a surrogate pair. -/
def renderString : Spelling → List Char
  | some s => '\x22' :: (s.toList.flatMap renderChar ++ ['\x22'])
  | none => ['\x22', '\x5c', 'u', 'd', '8', '0', '0', '\x22']

namespace Number

/-- The digits of a number before its exponent in writing. -/
def renderDigits (digits : Nat) : Option Nat → List Char
  | none => natDigits digits
  | some places =>
      let text := padded (places + 1) digits
      text.take (text.length - places) ++ '.' :: text.drop (text.length - places)

/-- A number in writing. -/
def render (n : Number) : List Char :=
  (if n.negative then ['-'] else []) ++ renderDigits n.digits n.fraction ++
    match n.exponent with
    | none => []
    | some e => 'e' :: intDigits e

end Number

namespace Document

mutual

/-- **A document in writing.** -/
def render : Document → List Char
  | .null => ['n', 'u', 'l', 'l']
  | .bool true => ['t', 'r', 'u', 'e']
  | .bool false => ['f', 'a', 'l', 's', 'e']
  | .number n => n.render
  | .string s => renderString s
  | .array [] => ['[', ']']
  | .array (d :: ds) => '[' :: (d.render ++ renderItems ds)
  | .object [] => ['\x7b', '\x7d']
  | .object ((name, d) :: ds) =>
      '\x7b' :: (renderString name ++ ':' :: (d.render ++ renderMembers ds))

/-- The items after the first in writing, with the closing bracket. -/
def renderItems : List Document → List Char
  | [] => [']']
  | d :: ds => ',' :: (d.render ++ renderItems ds)

/-- The members after the first in writing, with the closing brace. -/
def renderMembers : List (Spelling × Document) → List Char
  | [] => ['\x7d']
  | (name, d) :: ds => ',' :: (renderString name ++ ':' :: (d.render ++ renderMembers ds))

end

/-- A document in writing, as a string. -/
def toText (d : Document) : String := String.ofList d.render

end Document

end TagTimeline.Json
