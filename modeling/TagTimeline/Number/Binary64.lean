import TagTimeline.Text.Integer

/-!
# Double Precision Numbers

Numbers of the IEEE 754 `binary64` format as exact values: a significand below `2 ^ 53` and a power
of two. A decimal is read by rounding to the nearest such number, ties to the even significand. A
number is written with the fewest digits that read back as it, the nearest of those, always in
positional notation.

The rounding works on natural numbers alone, so that every result can be computed in a proof.
-/

namespace TagTimeline.Number

open TagTimeline.Text

/-- **A double precision number.** A finite one is `significand * 2 ^ exponent`. -/
inductive Binary64 where
  | notANumber
  | infinite (negative : Bool)
  | finite (negative : Bool) (significand : Nat) (exponent : Int)
  deriving DecidableEq, Repr

namespace Binary64

/-- The least exponent of a finite number. -/
def minExponent : Int := -1074

/-- The greatest exponent of a finite number. -/
def maxExponent : Int := 971

/-- A quotient rounded to the nearest natural number, ties to the even one. -/
def roundQuotient (num den : Nat) : Nat :=
  let quotient := num / den
  let rest := num % den
  if 2 * rest < den then quotient
  else if den < 2 * rest then quotient + 1
  else if quotient % 2 = 0 then quotient
  else quotient + 1

/-- Numerator and denominator of `num / den` divided by a power of two. -/
def scaledBy (num den : Nat) (exponent : Int) : Nat × Nat :=
  if 0 ≤ exponent then (num, den * Nat.pow 2 exponent.toNat)
  else (num * Nat.pow 2 (-exponent).toNat, den)

/-- **The double nearest to a positive quotient**, ties to the even significand. -/
def ofQuotient (negative : Bool) (num den : Nat) : Binary64 :=
  let guess : Int := (Nat.log2 num : Int) - (Nat.log2 den : Int) - 53
  let (n, d) := scaledBy num den guess
  let exponent := max minExponent (if n / d < Nat.pow 2 53 then guess else guess + 1)
  let (n, d) := scaledBy num den exponent
  let significand := roundQuotient n d
  let (significand, exponent) :=
    if significand = Nat.pow 2 53 then (Nat.pow 2 52, exponent + 1) else (significand, exponent)
  if maxExponent < exponent then .infinite negative else .finite negative significand exponent

/-- **The double nearest to the decimal** `digits * 10 ^ scale`. Powers of ten far outside the
format's range are settled by the number of digits alone. -/
def ofDecimal (negative : Bool) (digits : Nat) (scale : Int) : Binary64 :=
  let magnitude : Int := (natDigits digits).length + scale
  if digits = 0 then .finite negative 0 minExponent
  else if 310 < magnitude then .infinite negative
  else if magnitude < -330 then .finite negative 0 minExponent
  else if 0 ≤ scale then ofQuotient negative (digits * Nat.pow 10 scale.toNat) 1
  else ofQuotient negative digits (Nat.pow 10 (-scale).toNat)

/-- Zero. -/
def zero : Binary64 := .finite false 0 minExponent

/-- The double nearest to `num / den * 2 ^ exponent`, ties to the even significand. -/
def ofScaled (negative : Bool) (num den : Nat) (exponent : Int) : Binary64 :=
  if num = 0 then .finite negative 0 minExponent
  else
    let (num, den) := scaledBy num den (-exponent)
    ofQuotient negative num den

/-- **The product of two finite doubles, rounded**; anything else is no number. -/
def times : Binary64 → Binary64 → Binary64
  | .finite n m e, .finite n' m' e' => ofScaled (n != n') (m * m') 1 (e + e')
  | _, _ => .notANumber

/-- **The quotient of two finite doubles, rounded**; anything else, and what is divided by zero, is
no number. -/
def dividedBy : Binary64 → Binary64 → Binary64
  | .finite n m e, .finite n' m' e' =>
      if m' = 0 then .notANumber else ofScaled (n != n') m m' (e - e')
  | _, _ => .notANumber

/-- Whether the number is neither zero. Not-a-number is not zero. -/
def isNonzero : Binary64 → Bool
  | .finite _ significand _ => significand != 0
  | _ => true

/-- The greatest value of a 64-bit natural number. -/
def maxUnsigned : Nat := Nat.pow 2 64 - 1

/-- **The nearest natural number of 64 bits**, a half going away from zero. Negative numbers and
not-a-number give zero, numbers too great the greatest value. -/
def toUnsigned : Binary64 → Nat
  | .notANumber => 0
  | .infinite negative => if negative then 0 else maxUnsigned
  | .finite negative significand exponent =>
      if negative then 0
      else if 0 ≤ exponent then min maxUnsigned (significand * Nat.pow 2 exponent.toNat)
      else
        let unit := Nat.pow 2 (-exponent).toNat
        min maxUnsigned ((significand + unit / 2) / unit)

/-- Whether `num / den` lies among the reals that round to `significand * 2 ^ exponent`: between
the midpoints to its two neighbours, these included exactly if the significand is even. -/
def roundsTo (significand : Nat) (exponent : Int) (num den : Nat) : Bool :=
  let narrow := significand = Nat.pow 2 52 ∧ minExponent < exponent
  let low := if narrow then 4 * significand - 1 else 4 * significand - 2
  let high := 4 * significand + 2
  let (n, d) := scaledBy (4 * num) den exponent
  if significand % 2 = 0 then low * d ≤ n && n ≤ high * d else low * d < n && n < high * d

/-- The two multiples of a power of ten next to a number, with their distances, that read back as
the number; the nearer one if both do. -/
def gridPoint? (significand : Nat) (exponent scale : Int) : Option Nat :=
  let (vn, vd) := if 0 ≤ exponent then (significand * Nat.pow 2 exponent.toNat, 1)
    else (significand, Nat.pow 2 (-exponent).toNat)
  let (gn, gd) := if 0 ≤ scale then (Nat.pow 10 scale.toNat, 1) else (1, Nat.pow 10 (-scale).toNat)
  let below := (vn * gd) / (vd * gn)
  let rest := (vn * gd) % (vd * gn)
  let fits (k : Nat) : Bool := 0 < k && roundsTo significand exponent (k * gn) gd
  match fits below, fits (below + 1) with
  | true, true => some (if 2 * rest ≤ vd * gn then below else below + 1)
  | true, false => some below
  | false, true => some (below + 1)
  | false, false => none

/-- The first grid, from coarse to fine, with a point that reads back as the number. -/
def firstGridPoint (significand : Nat) (exponent : Int) : List Int → Nat × Int
  | [] => (0, 0)
  | scale :: finer =>
      match gridPoint? significand exponent scale with
      | some k => (k, scale)
      | none => firstGridPoint significand exponent finer

/-- The power of ten of the leading digit of `significand * 2 ^ exponent`. -/
def leadingPower (significand : Nat) (exponent : Int) : Int :=
  if 0 ≤ exponent then (natDigits (significand * Nat.pow 2 exponent.toNat)).length - 1
  else
    let unit := Nat.pow 2 (-exponent).toNat
    if unit ≤ significand then (natDigits (significand / unit)).length - 1
    else -(natDigits ((unit - 1) / significand)).length

/-- **The shortest decimal that reads back** as a positive finite number: digits and the power of
ten of the last one. -/
def shortest (significand : Nat) (exponent : Int) : Nat × Int :=
  let leading := leadingPower significand exponent
  firstGridPoint significand exponent ((List.range 19).map fun (i : Nat) => leading + 1 - (i : Int))

/-- Digits with a decimal point put in, in positional notation. -/
def positional (digits : Nat) (scale : Int) : List Char :=
  let text := natDigits digits
  if 0 ≤ scale then text ++ List.replicate scale.toNat '0'
  else
    let places := (-scale).toNat
    let text := List.replicate (places + 1 - text.length) '0' ++ text
    text.take (text.length - places) ++ '.' :: text.drop (text.length - places)

/-- **A double as text**: the shortest digits that read back, never with an exponent. -/
def render : Binary64 → List Char
  | .notANumber => "NaN".toList
  | .infinite negative => if negative then "-inf".toList else "inf".toList
  | .finite negative significand exponent =>
      let digits :=
        if significand = 0 then ['0']
        else
          let (digits, scale) := shortest significand exponent
          positional digits scale
      if negative then '-' :: digits else digits

/-- The digits at the start of a text, and what follows. -/
def takeDigits (cs : List Char) : List Char × List Char :=
  (cs.takeWhile isDigit, cs.dropWhile isDigit)

/-- A decimal exponent behind its mark: an optional sign and at least one digit, to the end. -/
def readExponent? (cs : List Char) : Option Int := readInt? cs

/-- An unsigned decimal: digits before or after an optional point, at least one in all, and an
optional exponent. -/
def readMagnitude? (negative : Bool) (cs : List Char) : Option Binary64 :=
  let (whole, rest) := takeDigits cs
  let (fraction, rest) := match rest with
    | '.' :: more => takeDigits more
    | _ => ([], rest)
  let digits := whole ++ fraction
  let exponent? : Option Int := match rest with
    | [] => some 0
    | c :: more => if c = 'e' ∨ c = 'E' then readExponent? more else none
  match readNat? 10 digits, exponent? with
  | some n, some exponent => some (ofDecimal negative n (exponent - fraction.length))
  | _, _ => none

/-- **Reads a double**: an optional sign, then a decimal or one of the words `inf`, `infinity` and
`nan` in any case. -/
def read? (cs : List Char) : Option Binary64 :=
  let (negative, magnitude) := match cs with
    | '-' :: more => (true, more)
    | '+' :: more => (false, more)
    | _ => (false, cs)
  let word := String.ofList (magnitude.map Char.toLower)
  if word = "inf" ∨ word = "infinity" then some (.infinite negative)
  else if word = "nan" then some .notANumber
  else readMagnitude? negative magnitude

end Binary64

end TagTimeline.Number
