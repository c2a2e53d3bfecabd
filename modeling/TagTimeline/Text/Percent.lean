import TagTimeline.Text.Integer

/-!
# Percent Encoding

Text in which a percent sign and two hexadecimal digits stand for a byte. A percent sign before
anything else stands for itself. The bytes have to be UTF-8.

## Main results

* `Percent.decode?` — the text that such a text stands for.
* `Percent.pair?` — a name and its value in a query.
-/

namespace TagTimeline.Text.Percent

/-- The value of a byte as a hexadecimal digit. -/
def hexDigit? (byte : UInt8) : Option Nat := digitIn? 16 (Char.ofNat byte.toNat)

/-- The byte of a percent sign. -/
def mark : UInt8 := 0x25

/-- The bytes that some bytes stand for. -/
def decodeBytes : List UInt8 → List UInt8
  | [] => []
  | [a] => [a]
  | [a, b] => [a, b]
  | a :: b :: c :: rest =>
      match hexDigit? b, hexDigit? c with
      | some high, some low =>
          if a = mark then UInt8.ofNat (16 * high + low) :: decodeBytes rest
          else a :: decodeBytes (b :: c :: rest)
      | _, _ => a :: decodeBytes (b :: c :: rest)

/-- **The text that a text stands for**, unless its bytes are no UTF-8. -/
def decode? (s : String) : Option String :=
  String.fromUTF8? ⟨(decodeBytes s.toUTF8.toList).toArray⟩

/-- A part of a query, in which a plus sign is a space. -/
def decodePart? (s : String) : Option String :=
  decode? (String.ofList (s.toList.map fun c => if c = '+' then ' ' else c))

/-- A name and its value, divided by the first equals sign; without one the value is empty. -/
def pair? (cs : List Char) : Option (String × String) := do
  let name ← decodePart? (String.ofList (cs.takeWhile (· != '=')))
  let value ← decodePart? (String.ofList ((cs.dropWhile (· != '=')).drop 1))
  return (name, value)

end TagTimeline.Text.Percent
