/-!
# Generated Ids

The ids that the site makes: 128-bit numbers, 48 bits of time in milliseconds above 80 random bits,
written with 26 digits of a base-32 alphabet that leaves out letters easily misread. Ids made later
are therefore greater as text.

A batch of ids is made by a generator that remembers its last id. As long as the clock has not
passed the millisecond of that id, the next id is the last one plus one. When its random bits are
all ones there is no such id; then the batch takes a single fresh one in its place, and the
generator stays where it was.

## Main results

* `Id.length_text` — an id has 26 characters.
* `Id.length_batch` — a batch has as many ids as were asked for.
-/

namespace TagTimeline

namespace Id

/-- The alphabet of ids, in ascending order of the digits' values. -/
def alphabet : List Char := "0123456789abcdefghjkmnpqrstvwxyz".toList

/-- The digit with a value below 32. -/
def digit (value : Nat) : Char := alphabet.getD value '0'

/-- The last `count` base-32 digits of a number. -/
def digits : Nat → Nat → List Char
  | 0, _ => []
  | count + 1, value => digits count (value / 32) ++ [digit (value % 32)]

/-- How many characters an id has. -/
def width : Nat := 26

/-- **An id in writing.** -/
def text (value : Nat) : String := String.ofList (digits width value)

/-- There are as many digits as asked for. -/
theorem length_digits (count value : Nat) : (digits count value).length = count := by
  induction count generalizing value with
  | zero => rfl
  | succ count ih => simp [digits, ih]

/-- An id has 26 characters. -/
theorem length_text (value : Nat) : (text value).length = width := by
  simp [text, length_digits]

/-- How many random numbers an id can hold. -/
def randomSpan : Nat := Nat.pow 2 80

/-- How many milliseconds an id can hold. -/
def timeSpan : Nat := Nat.pow 2 48

/-- A reading of the clock and a draw of the random source. -/
structure Draw where
  millis : Nat
  random : Nat
  deriving DecidableEq, Repr

namespace Draw

/-- The number of a fresh id. -/
def value (draw : Draw) : Nat :=
  draw.millis % timeSpan * randomSpan + draw.random % randomSpan

end Draw

/-- **A single fresh id.** -/
def fresh (draw : Draw) : String := text draw.value

/-- The millisecond of an id's number. -/
def millisOf (value : Nat) : Nat := value / randomSpan

/-- The next number in the same millisecond, if there is one. -/
def successor? (value : Nat) : Option Nat :=
  if value % randomSpan = randomSpan - 1 then none else some (value + 1)

/-- **The next number of a generator** whose last number is given: a fresh one once the clock has
passed its millisecond, else the successor. -/
def next? (last : Nat) (draw : Draw) : Option Nat :=
  if draw.millis ≤ millisOf last then successor? last else some draw.value

/-- What is read for one id of a batch: for the generator, and for a fresh id in its place. -/
structure Reading where
  attempt : Draw
  fallback : Draw
  deriving DecidableEq, Repr

/-- The ids of a batch from a generator whose last number is given. -/
def batchFrom (last : Nat) : List Reading → List String
  | [] => []
  | reading :: more =>
      match next? last reading.attempt with
      | some value => text value :: batchFrom value more
      | none => fresh reading.fallback :: batchFrom last more

/-- **A batch of ids**, one for each reading. -/
def batch (readings : List Reading) : List String := batchFrom 0 readings

/-- A batch has one id for each reading. -/
theorem length_batchFrom (last : Nat) (readings : List Reading) :
    (batchFrom last readings).length = readings.length := by
  induction readings generalizing last with
  | nil => rfl
  | cons reading more ih =>
      unfold batchFrom
      split <;> simp [ih]

/-- A batch has as many ids as were asked for. -/
theorem length_batch (readings : List Reading) : (batch readings).length = readings.length :=
  length_batchFrom 0 readings

end Id

end TagTimeline
