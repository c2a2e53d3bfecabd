/-!
# Integers as Text

Reading and writing whole numbers in decimal and in the other bases that settings use. A reader
takes the whole text or nothing: digits, at least one, and for signed numbers one optional sign in
front. Leading zeros are allowed and there are no separators.
-/

namespace TagTimeline.Text

/-- The value of a digit up to base 36, letters in either case. -/
def digitValue? (c : Char) : Option Nat :=
  if '0' ≤ c ∧ c ≤ '9' then some (c.toNat - '0'.toNat)
  else if 'a' ≤ c ∧ c ≤ 'z' then some (c.toNat - 'a'.toNat + 10)
  else if 'A' ≤ c ∧ c ≤ 'Z' then some (c.toNat - 'A'.toNat + 10)
  else none

/-- The value of a digit below the base. -/
def digitIn? (base : Nat) (c : Char) : Option Nat :=
  (digitValue? c).filter (· < base)

/-- Whether a character is one of `0` to `9`. -/
def isDigit (c : Char) : Bool := decide ('0' ≤ c ∧ c ≤ '9')

/-- Appends digits to a number read so far. -/
def readDigits? (base : Nat) : Nat → List Char → Option Nat
  | n, [] => some n
  | n, c :: cs => (digitIn? base c).bind fun d => readDigits? base (n * base + d) cs

/-- A natural number: digits only, and at least one. -/
def readNat? (base : Nat) : List Char → Option Nat
  | [] => none
  | c :: cs => readDigits? base 0 (c :: cs)

/-- A natural number in decimal after an optional plus sign. -/
def readUnsigned? : List Char → Option Nat
  | '+' :: cs => readNat? 10 cs
  | cs => readNat? 10 cs

/-- A whole number in decimal after an optional sign. -/
def readInt? : List Char → Option Int
  | '-' :: cs => (readNat? 10 cs).map fun n => -(n : Int)
  | '+' :: cs => (readNat? 10 cs).map Int.ofNat
  | cs => (readNat? 10 cs).map Int.ofNat

/-- The decimal digits of a number, the lowest first. -/
def digitsReversed (n : Nat) : List Char :=
  if n < 10 then [Char.ofNat (n + '0'.toNat)]
  else Char.ofNat (n % 10 + '0'.toNat) :: digitsReversed (n / 10)
termination_by n
decreasing_by omega

/-- **A natural number in decimal**, without leading zeros. -/
def natDigits (n : Nat) : List Char := (digitsReversed n).reverse

/-- A natural number in decimal with zeros in front up to a width. -/
def padded (width n : Nat) : List Char :=
  let digits := natDigits n
  List.replicate (width - digits.length) '0' ++ digits

/-- A whole number in decimal, a minus sign in front of a negative one. -/
def intDigits (i : Int) : List Char :=
  if i < 0 then '-' :: natDigits i.natAbs else natDigits i.natAbs

end TagTimeline.Text
