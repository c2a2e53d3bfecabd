import TagTimeline.Config.Value

/-!
# Places in Configuration Values

Where a layer of settings puts a value: at a name, at a name within a table, or at an index within a
list, and so on inward. Such a place is written as names with points between them and indices in
brackets, as in `groups.first[0].name`. An index below zero counts from the end of the list. What
cannot be read as a place is a plain name.

On its way to its place a value makes room: what is no table where a name is looked for becomes an
empty table, what is no list where an index is looked for becomes an empty list, and a list that is
too short is filled up with nulls. At a name the value is laid over what is there, at an index it
takes its place.

## Main results

* `Place.ofName` — the place that the name of a setting spells.
* `Value.merge?` — a layer of settings laid over others.
-/

namespace TagTimeline.Config

open Text

/-- **One step of a place.** -/
inductive Step where
  | name (name : String)
  | index (i : Int)
  deriving DecidableEq, Repr

/-- **A place in a configuration value**: the steps that lead to it. -/
abbrev Place := List Step

namespace Place

/-- Whether a character may stand in a name of a place. -/
def isNamePart (c : Char) : Bool := c.isAlphanum || c == '_' || c == '-' || c == ' '

/-- A name, from the front. -/
def takeName? (cs : List Char) : Option (String × List Char) :=
  let name := cs.takeWhile isNamePart
  if name.isEmpty then none else some (String.ofList name, cs.drop name.length)

/-- Whether a character may stand around an index. -/
def isMargin (c : Char) : Bool := c == ' ' || c == '\t'

/-- An index of 64 bits in its brackets, from behind the opening one. -/
def takeIndex? (cs : List Char) : Option (Int × List Char) :=
  let cs := cs.dropWhile isMargin
  let (negative, cs) := match cs with
    | '-' :: rest => (true, rest)
    | _ => (false, cs)
  let digits := cs.takeWhile isDigit
  match readNat? 10 digits, (cs.drop digits.length).dropWhile isMargin with
  | some n, ']' :: rest =>
      let i : Int := if negative then -(n : Int) else n
      if Value.isWhole64 i then some (i, rest) else none
  | _, _ => none

/-- The steps behind a name, to the end. -/
def stepsFrom? : Nat → List Char → Option Place
  | _, [] => some []
  | 0, _ => none
  | count + 1, '.' :: rest => do
      let (name, rest) ← takeName? rest
      return .name name :: (← stepsFrom? count rest)
  | count + 1, '[' :: rest => do
      let (i, rest) ← takeIndex? rest
      return .index i :: (← stepsFrom? count rest)
  | _, _ => none

/-- The place that a text spells, if it is one. -/
def read? (cs : List Char) : Option Place := do
  let (name, rest) ← takeName? cs
  return .name name :: (← stepsFrom? rest.length rest)

/-- **The place that the name of a setting spells.** -/
def ofName (name : String) : Place := (read? name.toList).getD [.name name]

end Place

namespace Value

/-- The items of a value, none if it is no list. -/
def items : Value → List Value
  | .list vs => vs
  | _ => []

/-- No list can have so many items. -/
def lengthBound : Nat := Nat.pow 2 56

/-- The position of an index in a list with so many items, unless it lies before the first, or
beyond all bounds. -/
def position? (i : Int) (length : Nat) : Option Nat :=
  let position := if 0 ≤ i then i else i + length
  if 0 ≤ position ∧ position < lengthBound then some position.toNat else none

/-- Items with the one at a position exchanged, filled up with nulls as far as needed. -/
def setItem (position : Nat) (value : Value) (items : List Value) : List Value :=
  (items ++ List.replicate (position + 1 - items.length) null).set position value

/-- **A value put at a place** in another value, unless an index on its way has no position. -/
def put? : Place → Value → Value → Option Value
  | [], value, _ => some value
  | [.name name], value, lower =>
      some (.table (setMember name (layOver value (lower.members.lookup name)) lower.members))
  | .name name :: place, value, lower =>
      (put? place value ((lower.members.lookup name).getD null)).map fun inner =>
        .table (setMember name inner lower.members)
  | .index i :: place, value, lower => do
      let position ← position? i lower.items.length
      let inner ← put? place value (lower.items[position]?.getD null)
      return .list (setItem position inner lower.items)

/-- **A layer of settings laid over others**, each at the place that its name spells. -/
def merge? (layer : List (String × Value)) (lower : Value) : Option Value :=
  layer.foldlM (fun lower (name, value) => put? (Place.ofName name) value lower) lower

/-- At a single name nothing can fail. -/
theorem put?_name (name : String) (value lower : Value) :
    put? [.name name] value lower =
      some (.table (setMember name (layOver value (lower.members.lookup name)) lower.members)) := by
  rw [put?]

end Value

end TagTimeline.Config
