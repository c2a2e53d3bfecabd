import TagTimeline.Json.Document
import TagTimeline.Number.Binary64

/-!
# JSON Numbers as Doubles

Which double a JSON number is read as. The digits are taken into a significand of 64 bits: once one
more digit of the whole part would go beyond it, that digit and the rest of the whole part only
count as places; once a digit behind the point would, it and the rest are dropped. The significand
is rounded to a double and then multiplied or divided by the double next to a power of ten, in steps
of at most `10 ^ 308` downward, each rounded again. So the double need not be the one nearest to the
number, and a number near the greatest double may be out of range although that one is nearest.

An exponent of more than 31 bits puts the number out of range, or makes it zero.

## Main results

* `Number.double?` — the double of a number, unless it is out of range.
-/

namespace TagTimeline.Json

open TagTimeline.Number (Binary64)
open TagTimeline.Text (digitIn? padded)

namespace Number

/-- The digits of a number, those of the whole part and those behind the point. -/
def digitParts (n : Number) : List Nat × List Nat :=
  let places := n.fraction.getD 0
  let digits := (padded (places + 1) n.digits).filterMap (digitIn? 10)
  (digits.take (digits.length - places), digits.drop (digits.length - places))

/-- The first number that does not fit a significand. -/
def significandBound : Nat := Nat.pow 2 64

/-- A significand continued by the digits of a whole part, and how many of them only count as
places. -/
def takeWhole (significand : Nat) : List Nat → Nat × Nat
  | [] => (significand, 0)
  | d :: rest =>
      if significand * 10 + d < significandBound then takeWhole (significand * 10 + d) rest
      else (significand, rest.length + 1)

/-- A significand continued by digits behind the point, and how many of them it has taken. -/
def takeFraction (significand : Nat) : List Nat → Nat × Nat
  | [] => (significand, 0)
  | d :: rest =>
      if significand * 10 + d < significandBound then
        let (significand, taken) := takeFraction (significand * 10 + d) rest
        (significand, taken + 1)
      else (significand, 0)

/-- The greatest exponent that is told apart from those beyond it. -/
def maxExponent : Int := Int.pow 2 31 - 1

/-- An exponent kept within 32 bits. -/
def saturated (exponent : Int) : Int := max (-Int.pow 2 31) (min maxExponent exponent)

/-- The greatest power of ten that is a finite double, or next to one. -/
def maxPower : Nat := 308

/-- The double next to a power of ten. -/
def powerOfTen (power : Nat) : Binary64 := Binary64.ofQuotient false (Nat.pow 10 power) 1

/-- A finite double, and nothing for any other. -/
def finite? : Binary64 → Option Binary64
  | .finite negative significand exponent => some (.finite negative significand exponent)
  | _ => none

/-- A double multiplied by a power of ten, unless the product is out of range. -/
def timesPowerOfTen? (x : Binary64) (power : Int) : Option Binary64 :=
  if power.natAbs ≤ maxPower then
    if 0 ≤ power then finite? (x.times (powerOfTen power.natAbs))
    else some (x.dividedBy (powerOfTen power.natAbs))
  else if !x.isNonzero then some x
  else if 0 ≤ power then none
  else timesPowerOfTen? (x.dividedBy (powerOfTen maxPower)) (power + maxPower)
termination_by power.natAbs
decreasing_by simp only [maxPower] at *; omega

/-- A double with the sign of a number. -/
def signed (n : Number) : Binary64 → Binary64
  | .finite _ significand exponent => .finite n.negative significand exponent
  | x => x

/-- **The double that a number is read as**, unless it is out of range. -/
def double? (n : Number) : Option Binary64 :=
  let (whole, fraction) := n.digitParts
  let (significand, places) := takeWhole 0 whole
  let (significand, taken) := takeFraction significand fraction
  let exponent := n.exponent.getD 0
  let magnitude : Option Binary64 :=
    if maxExponent < exponent.natAbs then
      if significand ≠ 0 ∧ 0 ≤ exponent then none else some .zero
    else
      timesPowerOfTen? (.ofScaled false significand 1 0)
        (saturated ((places : Int) - taken + exponent))
  magnitude.map n.signed

end Number

end TagTimeline.Json
