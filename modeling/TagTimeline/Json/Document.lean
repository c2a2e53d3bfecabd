/-!
# JSON Documents

A JSON document as a value. What a document says is kept, how it is spelled is not: blanks, escapes
and the case of an exponent's mark are gone, while the order of members, repeated names and the
exact digits of a number stay.

A JSON string may spell half of a surrogate pair by an escape and then stands for no text. It is
still well-formed JSON, so it has a place here as a string without text.

## Main results

* `Number.int?_ofInt` — a whole number is read back from the number written like it.
-/

namespace TagTimeline.Json

/-- **A JSON number**, digit by digit. -/
structure Number where
  negative : Bool
  /-- All digits before the exponent as one natural number, the point left out. -/
  digits : Nat
  /-- How many of the digits stand behind the point, if there is one. -/
  fraction : Option Nat
  /-- The power of ten behind the exponent mark, if there is one. -/
  exponent : Option Int
  deriving DecidableEq, Repr

namespace Number

/-- The number that is written like this whole number. -/
def ofInt (i : Int) : Number := ⟨i < 0, i.natAbs, none, none⟩

/-- The whole number that a number without point and exponent is. Minus zero is none. -/
def int? (n : Number) : Option Int :=
  if n.fraction.isSome ∨ n.exponent.isSome then none
  else if n.negative then (if n.digits = 0 then none else some (-(n.digits : Int)))
  else some n.digits

/-- A whole number is read back from the number written like it. -/
theorem int?_ofInt (i : Int) : (ofInt i).int? = some i := by
  unfold ofInt int?
  by_cases h : i < 0
  · have : i.natAbs ≠ 0 := by omega
    simp only [Option.isSome_none, Bool.false_eq_true, or_self, ↓reduceIte, h, decide_true, this,
      Option.some.injEq]
    omega
  · simp only [Option.isSome_none, Bool.false_eq_true, or_self, ↓reduceIte, h, decide_false,
      Option.some.injEq]
    omega

end Number

/-- A JSON string: its text, or nothing if it spells half of a surrogate pair. -/
abbrev Spelling := Option String

/-- **A JSON document.** -/
inductive Document where
  | null
  | bool (b : Bool)
  | number (n : Number)
  | string (s : Spelling)
  | array (items : List Document)
  | object (members : List (Spelling × Document))
  deriving Inhabited

namespace Document

/-- A text as a document. -/
def text (s : String) : Document := .string (some s)

/-- A whole number as a document. -/
def int (i : Int) : Document := .number (.ofInt i)

/-- An object with the given members. -/
def record (members : List (String × Document)) : Document :=
  .object (members.map fun (name, value) => (some name, value))

/-- An optional value as a document: `null` if there is none. -/
def optional {α : Type} (encode : α → Document) : Option α → Document
  | none => .null
  | some a => encode a

mutual

/-- How deep arrays and objects are nested. -/
def depth : Document → Nat
  | .array items => depthOfItems items + 1
  | .object members => depthOfMembers members + 1
  | _ => 0

/-- The greatest depth of some items. -/
def depthOfItems : List Document → Nat
  | [] => 0
  | d :: ds => max d.depth (depthOfItems ds)

/-- The greatest depth of some members. -/
def depthOfMembers : List (Spelling × Document) → Nat
  | [] => 0
  | (_, d) :: ds => max d.depth (depthOfMembers ds)

end

mutual

/-- Whether every string of a document, the names of its members included, has a text, and every
number passes a test. -/
def isSound (test : Number → Bool) : Document → Bool
  | .number n => test n
  | .string s => s.isSome
  | .array items => areSoundItems test items
  | .object members => areSoundMembers test members
  | _ => true

/-- Whether all items are sound. -/
def areSoundItems (test : Number → Bool) : List Document → Bool
  | [] => true
  | d :: ds => d.isSound test && areSoundItems test ds

/-- Whether all members are sound. -/
def areSoundMembers (test : Number → Bool) : List (Spelling × Document) → Bool
  | [] => true
  | (name, d) :: ds => name.isSome && d.isSound test && areSoundMembers test ds

end

end Document

end TagTimeline.Json
