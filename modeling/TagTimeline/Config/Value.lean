import TagTimeline.Json.Value
import TagTimeline.Text.Blank

/-!
# Configuration Values

What a configuration file or an environment variable can say: scalars, lists and tables. A setting
takes a value of any kind that can be converted to its own: a flag also a number or one of the
usual words, a count also a flag, a rounded number or such a word, a text any scalar.

Names in tables are in lower case.

## Main results

* `Value.layOver` — a later table completes an earlier one, name by name.
* `Value.flag?`, `Value.count?`, `Value.text?` — the conversions.
-/

namespace TagTimeline.Config

open Json Number Text

/-- **A configuration value.** -/
inductive Value where
  | null
  | flag (b : Bool)
  | whole (i : Int)
  | real (x : Binary64)
  | text (s : String)
  | list (items : List Value)
  | table (members : List (String × Value))
  deriving Inhabited

namespace Value

/-- The empty table. -/
def emptyTable : Value := .table []

/-- The members of a table with a name set to a value. -/
def setMember (name : String) (value : Value) (members : List (String × Value)) :
    List (String × Value) :=
  match members with
  | [] => [(name, value)]
  | (n, v) :: rest => if n = name then (n, value) :: rest else (n, v) :: setMember name value rest

/-- The members of a value, none if it is no table. -/
def members : Value → List (String × Value)
  | .table ms => ms
  | _ => []

mutual

/-- **A value laid over another.** A table completes what is there, member by member, and makes
room for its members if that is no table; any other value takes its place. A table without members
leaves everything as it is. -/
def layOver (upper : Value) (lower : Option Value) : Value :=
  match upper with
  | .table upperMembers => layMembersOver upperMembers (lower.getD emptyTable)
  | value => value

/-- Some members laid over a value, one after the other. -/
def layMembersOver (upper : List (String × Value)) (lower : Value) : Value :=
  match upper with
  | [] => lower
  | (name, value) :: rest =>
      layMembersOver rest
        (.table (setMember name (layOver value (lower.members.lookup name)) lower.members))

end

/-- The words for an activated flag besides `1`. -/
def onWords : List String := ["true", "on", "yes"]

/-- The words for a flag that is off besides `0`. -/
def offWords : List String := ["false", "off", "no"]

/-- **A value as a flag.** -/
def flag? : Value → Option Bool
  | .flag b => some b
  | .whole i => some (i != 0)
  | .real x => some x.isNonzero
  | .text s =>
      let word := lowerAscii s
      if word = "1" ∨ word ∈ onWords then some true
      else if word = "0" ∨ word ∈ offWords then some false
      else none
  | _ => none

/-- A value as a natural number. -/
def natural? : Value → Option Nat
  | .flag b => some b.toNat
  | .whole i => if 0 ≤ i then some i.toNat else none
  | .real x => some x.toUnsigned
  | .text s =>
      let word := lowerAscii s
      if word ∈ onWords then some 1
      else if word ∈ offWords then some 0
      else readUnsigned? s.toList
  | _ => none

/-- **A value as a count** of 32 bits. -/
def count? (value : Value) : Option UInt32 :=
  value.natural?.bind fun n => if n < Nat.pow 2 32 then some (UInt32.ofNat n) else none

/-- **A value as a text.** -/
def text? : Value → Option String
  | .text s => some s
  | .flag b => some (if b then "true" else "false")
  | .whole i => some (String.ofList (intDigits i))
  | .real x => some (String.ofList x.render)
  | _ => none

/-- The greatest whole number of 64 bits. -/
def maxWhole : Int := Int.pow 2 63 - 1

/-- Whether a whole number has 64 bits. -/
def isWhole64 (i : Int) : Bool := -Int.pow 2 63 ≤ i && i ≤ maxWhole

/-- A number of a JSON document as a value: whole if it is a whole number of 64 bits. -/
def ofNumber (n : Number) : Value :=
  match n.int?.filter isWhole64 with
  | some i => .whole i
  | none => .real (n.double?.getD Binary64.zero)

mutual

/-- A JSON document as a value. -/
def ofDocument : Document → Value
  | .null => .null
  | .bool b => .flag b
  | .number n => ofNumber n
  | .string s => .text (s.getD "")
  | .array items => .list (ofItems items)
  | .object members => .table (ofMembers members)

/-- Items of a JSON document as values. -/
def ofItems : List Document → List Value
  | [] => []
  | d :: ds => ofDocument d :: ofItems ds

/-- Members of a JSON document as members of a table; of two with the same name the later stays. -/
def ofMembers : List (Spelling × Document) → List (String × Value)
  | [] => []
  | (name, d) :: ds =>
      let rest := ofMembers ds
      let name := lowerAscii (name.getD "")
      if (rest.lookup name).isSome then rest else (name, ofDocument d) :: rest

end

/-- The table that a JSON text spells. -/
def ofJson? (text : String) : Option (List (String × Value)) :=
  match Document.readValue? text with
  | some (.object members) => some (ofMembers members)
  | _ => none

end Value

end TagTimeline.Config
