import TagTimeline.Text.Integer
import TagTimeline.Time.Calendar

/-!
# TOML Dates and Times

Dates, times of day, and both together with or without a UTC offset. What is read becomes its text
in a normal form: `T` between date and time, fractions without zeros at the end, `Z` for UTC written
that way, and an offset of no minutes with a plus sign.

A date or time may stand by itself as a value, or as a text under a certain key; the two kinds
differ in which hours and offsets they allow.

## Main results

* `Moment.read?` — the normal form of a date, a time, or both.
-/

namespace TagTimeline.Toml.Moment

open Text Time

/-- **What the two kinds of moments allow.** -/
structure Bounds where
  /-- The last hour of a day. -/
  lastHour : Nat
  /-- Whether there is an offset of so many hours and minutes. -/
  isOffset : Nat → Nat → Bool

/-- What stands by itself keeps within a day. -/
def plain : Bounds := ⟨23, fun hour minute => hour ≤ 23 && minute ≤ 59⟩

/-- What stands as a text may reach the end of a day. -/
def quoted : Bounds := ⟨24, fun hour minute => hour * 60 + minute ≤ 24 * 60⟩

/-- A number of exactly so many digits, from the front. -/
def take? (count : Nat) (cs : List Char) : Option (Nat × List Char) :=
  let digits := cs.take count
  if digits.length = count ∧ digits.all isDigit then
    (readNat? 10 digits).map (·, cs.drop count)
  else none

/-- A certain character, from the front. -/
def mark? (c : Char) : List Char → Option (List Char)
  | d :: rest => if c = d then some rest else none
  | [] => none

/-- A date, from the front, in its normal form. -/
def date? (cs : List Char) : Option (List Char × List Char) := do
  let (year, cs) ← take? 4 cs
  let cs ← mark? '-' cs
  let (month, cs) ← take? 2 cs
  let cs ← mark? '-' cs
  let (day, cs) ← take? 2 cs
  if 1 ≤ day ∧ day ≤ daysInMonth year month then
    some (padded 4 year ++ '-' :: padded 2 month ++ '-' :: padded 2 day, cs)
  else none

/-- The digits of a fraction of a second, nine at most and without zeros at the end. -/
def fractionDigits (digits : List Char) : List Char :=
  ((digits.take 9).reverse.dropWhile (· == '0')).reverse

/-- A time of day, from the front, in its normal form. -/
def time? (bounds : Bounds) (cs : List Char) : Option (List Char × List Char) := do
  let (hour, cs) ← take? 2 cs
  let cs ← mark? ':' cs
  let (minute, cs) ← take? 2 cs
  let cs ← mark? ':' cs
  let (second, cs) ← take? 2 cs
  if hour ≤ bounds.lastHour ∧ minute ≤ 59 ∧ second ≤ 60 then
    let text := padded 2 hour ++ ':' :: padded 2 minute ++ ':' :: padded 2 second
    match cs with
    | '.' :: rest =>
        let digits := rest.takeWhile isDigit
        if digits.isEmpty then none
        else
          let kept := fractionDigits digits
          some (if kept.isEmpty then text else text ++ '.' :: kept, rest.drop digits.length)
    | _ => some (text, cs)
  else none

/-- A UTC offset of some minutes in its normal form. -/
def offsetText (negative : Bool) (minutes : Nat) : List Char :=
  (if negative && minutes != 0 then '-' else '+') ::
    (padded 2 (minutes / 60) ++ ':' :: padded 2 (minutes % 60))

/-- A UTC offset in its normal form, to the end; there may be none. -/
def offset? (bounds : Bounds) (cs : List Char) : Option (List Char) :=
  match cs with
  | [] => some []
  | ['Z'] => some ['Z']
  | ['z'] => some ['Z']
  | sign :: rest => do
      guard (sign == '+' || sign == '-')
      let (hour, rest) ← take? 2 rest
      let rest ← mark? ':' rest
      let (minute, rest) ← take? 2 rest
      if rest.isEmpty ∧ bounds.isOffset hour minute then
        some (offsetText (sign == '-') (hour * 60 + minute))
      else none

/-- **A date, a time, or both, in its normal form.** -/
def read? (bounds : Bounds) (cs : List Char) : Option String :=
  match date? cs with
  | some (date, []) => some (String.ofList date)
  | some (date, c :: rest) => do
      guard (c == 'T' || c == 't' || c == ' ')
      let (time, rest) ← time? bounds rest
      let offset ← offset? bounds rest
      some (String.ofList (date ++ 'T' :: time ++ offset))
  | none =>
      match time? bounds cs with
      | some (time, []) => some (String.ofList time)
      | _ => none

end TagTimeline.Toml.Moment
