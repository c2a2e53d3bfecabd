import TagTimeline.Config.Value
import TagTimeline.Toml.Moment

/-!
# TOML Scalars

The values of TOML that are written without quotes or brackets: flags, whole numbers in four bases,
and floating point numbers; dates and times are written like that, too. Such a value is a run of
letters, digits and a few marks, and is read as a whole. Underscores may stand between two digits.

## Main results

* `Scalar.read?` — the flag or number that a run of characters spells.
-/

namespace TagTimeline.Toml.Scalar

open Config Number Text

/-- Whether a character can be part of an unquoted value. -/
def isPart (c : Char) : Bool :=
  c.isAlphanum || c == '_' || c == '+' || c == '-' || c == '.' || c == ':'

/-- Digits without the underscores between them. An underscore needs a digit on both sides. -/
def plainDigits? (isDigit : Char → Bool) : List Char → Option (List Char)
  | [] => none
  | [c] => if isDigit c then some [c] else none
  | c :: '_' :: rest =>
      if isDigit c then (plainDigits? isDigit rest).map (c :: ·) else none
  | c :: rest => if isDigit c then (plainDigits? isDigit rest).map (c :: ·) else none

/-- A sign, if there is one, and the rest. -/
def signed (cs : List Char) : Bool × List Char :=
  match cs with
  | '-' :: rest => (true, rest)
  | '+' :: rest => (false, rest)
  | _ => (false, cs)

/-- A whole number of 64 bits. -/
def whole64? (i : Int) : Option Value := if Value.isWhole64 i then some (.whole i) else none

/-- A whole number in a base other than ten. -/
def based? (base : Nat) (cs : List Char) : Option Value :=
  (plainDigits? (fun c => (digitIn? base c).isSome) cs).bind fun digits =>
    (readNat? base digits).bind fun n => whole64? n

/-- Decimal digits without leading zeros. -/
def decimalDigits? (cs : List Char) : Option (List Char) :=
  (plainDigits? isDigit cs).filter fun digits => digits.length = 1 ∨ digits.head? ≠ some '0'

/-- A whole number. -/
def whole? : List Char → Option Value
  | '0' :: 'x' :: rest => based? 16 rest
  | '0' :: 'o' :: rest => based? 8 rest
  | '0' :: 'b' :: rest => based? 2 rest
  | cs =>
      let (negative, rest) := signed cs
      (decimalDigits? rest).bind fun digits =>
        (readNat? 10 digits).bind fun n => whole64? (if negative then -(n : Int) else n)

/-- A decimal exponent without its mark. -/
def exponent? (cs : List Char) : Option Int :=
  let (negative, rest) := signed cs
  (plainDigits? isDigit rest).bind fun digits =>
    (readNat? 10 digits).map fun n => if negative then -(n : Int) else n

/-- Whether a character marks an exponent. -/
def isMark (c : Char) : Bool := c == 'e' || c == 'E'

/-- A floating point number: digits, and then a fraction, an exponent, or both. One above the
greatest number is refused, one below the least is minus infinity. -/
def real? (cs : List Char) : Option Value :=
  let (negative, magnitude) := signed cs
  if magnitude = ['i', 'n', 'f'] then some (.real (.infinite negative))
  else if magnitude = ['n', 'a', 'n'] then some (.real .notANumber)
  else
    let mantissa := magnitude.takeWhile fun c => !isMark c
    let exponentPart := magnitude.dropWhile fun c => !isMark c
    let wholePart := mantissa.takeWhile (· != '.')
    let fractionPart := mantissa.dropWhile (· != '.')
    if exponentPart.isEmpty ∧ fractionPart.isEmpty then none
    else do
      let wholeDigits ← decimalDigits? wholePart
      let fractionDigits ← match fractionPart with
        | [] => some []
        | _ :: digits => plainDigits? isDigit digits
      let power ← match exponentPart with
        | [] => some 0
        | _ :: rest => exponent? rest
      let digits ← readNat? 10 (wholeDigits ++ fractionDigits)
      match Binary64.ofDecimal negative digits (power - fractionDigits.length) with
      | .infinite false => none
      | x => some (.real x)

/-- **The value that a run of characters spells.** -/
def read? (cs : List Char) : Option Value :=
  if cs = ['t', 'r', 'u', 'e'] then some (.flag true)
  else if cs = ['f', 'a', 'l', 's', 'e'] then some (.flag false)
  else (whole? cs).orElse fun _ => real? cs

/-- The run of characters at the front that can be one value. A blank between a date and a time is
part of it. -/
def takeRun (cs : List Char) : List Char × List Char :=
  let run := cs.takeWhile isPart
  let rest := cs.dropWhile isPart
  match Moment.date? run, rest with
  | some (_, []), ' ' :: more =>
      let timeRun := more.takeWhile isPart
      if (Moment.time? Moment.plain timeRun).isSome then
        (run ++ ' ' :: timeRun, more.dropWhile isPart)
      else (run, rest)
  | _, _ => (run, rest)

end TagTimeline.Toml.Scalar
