import TagTimeline.Json.Double
import TagTimeline.Json.Reader

/-!
# JSON Values

Documents that a program can take in as values: every string is a text, every number a whole number
of 64 bits or a finite double, and arrays and objects are nested to a bounded depth.

An object whose first member has a certain reserved name stands for the value that the text of this
member spells; it has no other members. That value is bounded in depth by itself.

## Main results

* `Document.readValue?` — the value that a text spells.
-/

namespace TagTimeline.Json

/-- The greatest depth of a value. -/
def maxDepth : Nat := 127

/-- Whether a number can be taken in: as a whole number of 64 bits with or without a sign, or as a
double. -/
def Number.isValue (n : Number) : Bool :=
  n.int?.any (fun i => -Int.pow 2 63 ≤ i && i < Int.pow 2 64) || n.double?.isSome

namespace Document

/-- The reserved name of a member whose text spells a value. -/
def spelledName : String := "$serde_json::private::RawValue"

mutual

/-- A document with every object that stands for the value of a text replaced by what `read` makes
of the text. -/
def replaceSpelled? (read : String → Option Document) : Document → Option Document
  | .array items => (replaceInItems? read items).map .array
  | .object members => replaceInObject? read members
  | d => some d

/-- An object with its members replaced, or what it stands for. -/
def replaceInObject? (read : String → Option Document) :
    List (Spelling × Document) → Option Document
  | [] => some (.object [])
  | (name, d) :: rest =>
      if name = some spelledName then
        match d, rest with
        | .string (some text), [] => read text
        | _, _ => none
      else do
        let d ← replaceSpelled? read d
        let rest ← replaceInMembers? read rest
        return .object ((name, d) :: rest)

/-- Items with all of them replaced. -/
def replaceInItems? (read : String → Option Document) : List Document → Option (List Document)
  | [] => some []
  | d :: rest => do
      let d ← replaceSpelled? read d
      let rest ← replaceInItems? read rest
      return d :: rest

/-- Members with all of them replaced. -/
def replaceInMembers? (read : String → Option Document) :
    List (Spelling × Document) → Option (List (Spelling × Document))
  | [] => some []
  | (name, d) :: rest => do
      let d ← replaceSpelled? read d
      let rest ← replaceInMembers? read rest
      return (name, d) :: rest

end

/-- The value that a text spells, where texts may spell others within so many times. -/
def readValueWithin? : Nat → String → Option Document
  | 0, _ => none
  | levels + 1, text => do
      let d ← read? text
      guard (d.isSound Number.isValue && d.depth ≤ maxDepth)
      replaceSpelled? (readValueWithin? levels) d

/-- **The value that a text spells.** A text within a text is shorter, so there are at most as many
within each other as there are characters. -/
def readValue? (text : String) : Option Document := readValueWithin? (text.length + 1) text

end Document

end TagTimeline.Json
