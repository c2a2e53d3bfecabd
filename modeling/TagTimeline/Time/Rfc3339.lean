import TagTimeline.Text.Blank
import TagTimeline.Text.Integer
import TagTimeline.Time.Timestamp

/-!
# Timestamps as RFC 3339 Text

The written form of a timestamp is RFC 3339's: `2024-05-06T07:08:09.010+02:00`. It is written with
`Z` for offset zero and with 0, 3, 6 or 9 digits of a second, the fewest that are exact. A year
outside 0 to 9999 carries its sign and at least four digits; a leap second is written as second 60.

Reading is more liberal. Blanks may surround the parts, a number may have fewer digits, the date
and the time may be separated by `t` or a blank, the offset may be written `z` or `UTC`, may have
its colon left out or replaced by blanks, and may use the true minus sign. A year with a sign may
have any number of digits, and digits of a second after the ninth are dropped. An offset is always
required.

## Main results

* `Timestamp.render` and `Timestamp.read?` are the two directions.
-/

namespace TagTimeline.Time

open TagTimeline.Text

namespace Timestamp

/-- A year in writing. -/
def renderYear (year : Int) : List Char :=
  if 0 ≤ year ∧ year ≤ 9999 then padded 4 year.natAbs
  else (if year < 0 then '-' else '+') :: padded 4 year.natAbs

/-- The digits of a second in writing, the fewest of 0, 3, 6 and 9 that are exact. -/
def renderFraction (nanos : Nat) : List Char :=
  if nanos = 0 then []
  else if nanos % 1000000 = 0 then '.' :: padded 3 (nanos / 1000000)
  else if nanos % 1000 = 0 then '.' :: padded 6 (nanos / 1000)
  else '.' :: padded 9 nanos

/-- An offset in writing, as hours and minutes behind a sign. -/
def renderHours (minutes : Int) : List Char :=
  (if minutes < 0 then '-' else '+') ::
    (padded 2 (minutes.natAbs / 60) ++ ':' :: padded 2 (minutes.natAbs % 60))

/-- An offset in writing. -/
def renderOffset (minutes : Int) : List Char :=
  if minutes = 0 then ['Z'] else renderHours minutes

/-- The second of a minute that is written, which for a leap second is one more. -/
def shownSecond (r : ClockReading) : Nat :=
  if 1000000000 ≤ r.nanosecond then r.second + 1 else r.second

/-- The nanoseconds of a second that are written. -/
def shownNanosecond (r : ClockReading) : Nat :=
  if 1000000000 ≤ r.nanosecond then r.nanosecond - 1000000000 else r.nanosecond

/-- Two digits are enough for the second that is written. -/
theorem shownSecond_lt {r : ClockReading} (h : r.IsValid) : shownSecond r < 100 := by
  obtain ⟨-, -, -, -, -, -, hsecond, -⟩ := h
  unfold shownSecond
  split <;> omega

/-- Nine digits are enough for the nanoseconds that are written. -/
theorem shownNanosecond_lt {r : ClockReading} (h : r.IsValid) : shownNanosecond r < 1000000000 := by
  obtain ⟨-, -, -, -, -, -, -, hnanos, -⟩ := h
  unfold shownNanosecond
  split <;> omega

/-- A time of day in writing, and an offset behind it. -/
def renderTime (offset : List Char) (r : ClockReading) : List Char :=
  padded 2 r.hour ++ ':' :: (padded 2 r.minute ++ ':' :: (padded 2 (shownSecond r) ++
    (renderFraction (shownNanosecond r) ++ offset)))

/-- The date and the time of day that a clock shows, in writing, and an offset behind them. -/
def renderWith (offset : List Char) (r : ClockReading) : List Char :=
  renderYear r.year ++ '-' :: (padded 2 r.month ++ '-' :: (padded 2 r.day ++
    'T' :: renderTime offset r))

/-- **A timestamp in writing.** -/
def render (t : Timestamp) : List Char :=
  renderWith (renderOffset t.reading.offsetMinutes) t.reading

/-- A timestamp in writing, as a string. -/
def toText (t : Timestamp) : String := String.ofList t.render

/-- A number of at least one and at most so many digits, without blanks in front. -/
def takeNumber? (most : Nat) (cs : List Char) : Option (Nat × List Char) :=
  let cs := trimStart cs
  let digits := (cs.take most).takeWhile isDigit
  (readNat? 10 digits).map fun n => (n, cs.drop digits.length)

/-- A year: four digits at most, or a sign and any number of digits. -/
def takeYear? (cs : List Char) : Option (Int × List Char) :=
  match trimStart cs with
  | '-' :: rest =>
      if rest.head?.any isDigit then
        (takeNumber? rest.length rest).map fun (n, cs) => (-(n : Int), cs)
      else none
  | '+' :: rest =>
      if rest.head?.any isDigit then
        (takeNumber? rest.length rest).map fun (n, cs) => ((n : Int), cs)
      else none
  | cs => (takeNumber? 4 cs).map fun (n, cs) => ((n : Int), cs)

/-- A mark, after blanks. -/
def takeMark? (mark : Char) (cs : List Char) : Option (List Char) :=
  match trimStart cs with
  | c :: rest => if c = mark then some rest else none
  | [] => none

/-- The nanoseconds behind a point: digits after the ninth are dropped. -/
def takeFraction? : List Char → Option (Nat × List Char)
  | '.' :: rest =>
      let digits := rest.takeWhile isDigit
      let kept := digits.take 9
      (readNat? 10 kept).map fun n => (n * Nat.pow 10 (9 - kept.length), rest.drop digits.length)
  | cs => some (0, cs)

/-- Exactly two digits. -/
def takeTwoDigits? : List Char → Option (Nat × List Char)
  | a :: b :: rest => if isDigit a && isDigit b then (readNat? 10 [a, b]).map (·, rest) else none
  | _ => none

/-- The hours and minutes of an offset behind its sign. -/
def takeOffsetSize? (cs : List Char) : Option (Nat × List Char) := do
  let (hours, cs) ← takeTwoDigits? cs
  let (minutes, cs) ← takeTwoDigits? (cs.dropWhile fun c => c == ':' || isBlank c)
  if minutes ≤ 59 then some (hours * 60 + minutes, cs) else none

/-- The offset of a timestamp in minutes. -/
def takeOffset? (cs : List Char) : Option (Int × List Char) :=
  if String.ofList ((cs.take 3).map Char.toLower) = "utc" then some (0, cs.drop 3)
  else
    match cs with
    | 'Z' :: rest => some (0, rest)
    | 'z' :: rest => some (0, rest)
    | '+' :: rest => (takeOffsetSize? rest).map fun (n, cs) => ((n : Int), cs)
    | '-' :: rest => (takeOffsetSize? rest).map fun (n, cs) => (-(n : Int), cs)
    | '−' :: rest => (takeOffsetSize? rest).map fun (n, cs) => (-(n : Int), cs)
    | _ => none

/-- The mark between the date and the time. -/
def takeSeparator? : List Char → Option (List Char)
  | c :: rest => if c = 'T' ∨ c = 't' ∨ c = ' ' then some rest else none
  | [] => none

/-- The parts of a written timestamp, to the end of the text. -/
def readParts? (cs : List Char) : Option ClockReading := do
  let (year, cs) ← takeYear? cs
  let cs ← takeMark? '-' cs
  let (month, cs) ← takeNumber? 2 cs
  let cs ← takeMark? '-' cs
  let (day, cs) ← takeNumber? 2 cs
  let cs ← takeSeparator? cs
  let (hour, cs) ← takeNumber? 2 cs
  let cs ← takeMark? ':' cs
  let (minute, cs) ← takeNumber? 2 cs
  let cs ← takeMark? ':' cs
  let (second, cs) ← takeNumber? 2 cs
  let (nanos, cs) ← takeFraction? cs
  let (offset, cs) ← takeOffset? (trimStart cs)
  guard (trimStart cs).isEmpty
  if second = 60 then some ⟨year, month, day, hour, minute, 59, nanos + 1000000000, offset⟩
  else some ⟨year, month, day, hour, minute, second, nanos, offset⟩

/-- **Reads a written timestamp.** The parts have to name a point in time. -/
def read? (text : String) : Option Timestamp := (readParts? text.toList).bind ofParts?

end Timestamp

end TagTimeline.Time
