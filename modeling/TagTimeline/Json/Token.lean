import TagTimeline.Json.Document

/-!
# JSON Tokens

The words of JSON text and the machine that finds them, one character after the other. A number or
keyword ends where a character cannot continue it; two tokens need nothing between them.

The rules are strict: blanks are space, tab, line feed and carriage return alone, a number has no
leading zero and digits on both sides of its point, strings hold no raw control character and only
JSON's own escapes.

## Main results

* `scan_append` — the machine reads one text after the other.
-/

namespace TagTimeline.Json

/-- **A word of JSON text.** -/
inductive Token where
  | openBrace
  | closeBrace
  | openBracket
  | closeBracket
  | colon
  | comma
  | null
  | bool (b : Bool)
  | number (n : Number)
  | string (s : Spelling)
  deriving DecidableEq, Repr

/-- How far a number has been read. -/
inductive NumberPhase where
  /-- Behind the minus sign. -/
  | sign
  /-- Behind a leading zero. -/
  | zero
  /-- Within the digits before the point. -/
  | whole
  /-- Behind the point. -/
  | point
  /-- Within the digits behind the point. -/
  | fraction
  /-- Behind the exponent mark. -/
  | mark
  /-- Behind the sign of the exponent. -/
  | markSign
  /-- Within the digits of the exponent. -/
  | exponent
  deriving DecidableEq, Repr

/-- A number that is being read. -/
structure PartialNumber where
  phase : NumberPhase
  negative : Bool
  digits : Nat
  places : Nat
  exponentNegative : Bool
  exponent : Nat
  deriving DecidableEq, Repr

namespace PartialNumber

/-- The value of a decimal digit. -/
def digit? (c : Char) : Option Nat :=
  if '0' ≤ c ∧ c ≤ '9' then some (c.toNat - '0'.toNat) else none

/-- A number that starts with the character, if one can. -/
def start? (c : Char) : Option PartialNumber :=
  if c = '-' then some ⟨.sign, true, 0, 0, false, 0⟩
  else (digit? c).map fun d => ⟨if d = 0 then .zero else .whole, false, d, 0, false, 0⟩

/-- The number behind the exponent mark, if the character is one. -/
def mark? (n : PartialNumber) (c : Char) : Option PartialNumber :=
  if c = 'e' ∨ c = 'E' then some { n with phase := .mark } else none

/-- **The number continued by one character**, if that can continue it. -/
def push? (n : PartialNumber) (c : Char) : Option PartialNumber :=
  match n.phase with
  | .sign =>
      (digit? c).map fun d => { n with phase := if d = 0 then .zero else .whole, digits := d }
  | .zero => if c = '.' then some { n with phase := .point } else n.mark? c
  | .whole =>
      match digit? c with
      | some d => some { n with digits := n.digits * 10 + d }
      | none => if c = '.' then some { n with phase := .point } else n.mark? c
  | .point =>
      (digit? c).map fun d =>
        { n with phase := .fraction, digits := n.digits * 10 + d, places := 1 }
  | .fraction =>
      match digit? c with
      | some d => some { n with digits := n.digits * 10 + d, places := n.places + 1 }
      | none => n.mark? c
  | .mark =>
      if c = '+' then some { n with phase := .markSign }
      else if c = '-' then some { n with phase := .markSign, exponentNegative := true }
      else (digit? c).map fun d => { n with phase := .exponent, exponent := d }
  | .markSign => (digit? c).map fun d => { n with phase := .exponent, exponent := d }
  | .exponent => (digit? c).map fun d => { n with exponent := n.exponent * 10 + d }

/-- The number read, if it may end here. -/
def finish? (n : PartialNumber) : Option Number :=
  let places : Option Nat := if n.places = 0 then none else some n.places
  match n.phase with
  | .zero | .whole => some ⟨n.negative, n.digits, none, none⟩
  | .fraction => some ⟨n.negative, n.digits, places, none⟩
  | .exponent =>
      some ⟨n.negative, n.digits, places,
        some (if n.exponentNegative then -(n.exponent : Int) else n.exponent)⟩
  | _ => none

end PartialNumber

/-- What an escape or a character adds to a string that is being read. -/
inductive Unit16 where
  | scalar (c : Char)
  | highHalf (code : Nat)
  | lowHalf (code : Nat)
  deriving DecidableEq, Repr

namespace Unit16

/-- The unit that an escape by four hexadecimal digits spells. -/
def ofCode (code : Nat) : Unit16 :=
  if 0xD800 ≤ code ∧ code ≤ 0xDBFF then .highHalf code
  else if 0xDC00 ≤ code ∧ code ≤ 0xDFFF then .lowHalf code
  else .scalar (Char.ofNat code)

/-- The character that two halves of a surrogate pair spell. -/
def pair (high low : Nat) : Char :=
  Char.ofNat (0x10000 + (high - 0xD800) * 0x400 + (low - 0xDC00))

end Unit16

/-- A string that is being read: its characters so far, the last one first, whether every half of a
surrogate pair so far has its other half, and a first half that waits for it. -/
structure PartialString where
  reversed : List Char
  intact : Bool
  waiting : Option Nat
  deriving DecidableEq, Repr

namespace PartialString

/-- The empty string. -/
def empty : PartialString := ⟨[], true, none⟩

/-- The string continued by one unit. -/
def push (s : PartialString) : Unit16 → PartialString
  | .scalar c => ⟨c :: s.reversed, s.intact && s.waiting.isNone, none⟩
  | .highHalf code => ⟨s.reversed, s.intact && s.waiting.isNone, some code⟩
  | .lowHalf code =>
      match s.waiting with
      | some high => ⟨Unit16.pair high code :: s.reversed, s.intact, none⟩
      | none => ⟨s.reversed, false, none⟩

/-- The string as it ends here. -/
def finish (s : PartialString) : Spelling :=
  if s.intact && s.waiting.isNone then some (String.ofList s.reversed.reverse) else none

end PartialString

/-- How far a string has been read. -/
inductive StringPhase where
  | plain
  | escape
  /-- Within an escape by code: the digits still to come, and the code so far. -/
  | code (left : Nat) (value : Nat)
  deriving DecidableEq, Repr

/-- Where the machine stands between two characters. -/
inductive ScanState where
  | between
  /-- Within a keyword: the letters still to come, and its token. -/
  | keyword (rest : List Char) (token : Token)
  | number (n : PartialNumber)
  | string (s : PartialString) (phase : StringPhase)
  deriving DecidableEq, Repr

namespace Token

/-- The value of a hexadecimal digit. -/
def hexDigit? (c : Char) : Option Nat :=
  if '0' ≤ c ∧ c ≤ '9' then some (c.toNat - '0'.toNat)
  else if 'a' ≤ c ∧ c ≤ 'f' then some (c.toNat - 'a'.toNat + 10)
  else if 'A' ≤ c ∧ c ≤ 'F' then some (c.toNat - 'A'.toNat + 10)
  else none

/-- The character that a one-letter escape spells. -/
def escaped? (c : Char) : Option Char :=
  if c = '\x22' then some '\x22'
  else if c = '\x5c' then some '\x5c'
  else if c = '/' then some '/'
  else if c = 'b' then some '\x08'
  else if c = 'f' then some '\x0c'
  else if c = 'n' then some '\n'
  else if c = 'r' then some '\r'
  else if c = 't' then some '\t'
  else none

/-- Whether a character may stand between tokens. -/
def isSpace (c : Char) : Bool := c = ' ' || c = '\t' || c = '\n' || c = '\r'

/-- The first character of a token, or a blank. -/
def start? (c : Char) : Option (List Token × ScanState) :=
  if isSpace c then some ([], .between)
  else if c = '\x7b' then some ([.openBrace], .between)
  else if c = '\x7d' then some ([.closeBrace], .between)
  else if c = '[' then some ([.openBracket], .between)
  else if c = ']' then some ([.closeBracket], .between)
  else if c = ':' then some ([.colon], .between)
  else if c = ',' then some ([.comma], .between)
  else if c = '\x22' then some ([], .string .empty .plain)
  else if c = 'n' then some ([], .keyword ['u', 'l', 'l'] .null)
  else if c = 't' then some ([], .keyword ['r', 'u', 'e'] (.bool true))
  else if c = 'f' then some ([], .keyword ['a', 'l', 's', 'e'] (.bool false))
  else (PartialNumber.start? c).map fun n => ([], .number n)

/-- A character within a string. -/
def stepString? (s : PartialString) (phase : StringPhase) (c : Char) :
    Option (List Token × ScanState) :=
  match phase with
  | .plain =>
      if c = '\x22' then some ([.string s.finish], .between)
      else if c = '\x5c' then some ([], .string s .escape)
      else if c.toNat < 0x20 then none
      else some ([], .string (s.push (.scalar c)) .plain)
  | .escape =>
      if c = 'u' then some ([], .string s (.code 3 0))
      else (escaped? c).map fun e => ([], .string (s.push (.scalar e)) .plain)
  | .code left value =>
      (hexDigit? c).map fun d =>
        match left with
        | 0 => ([], .string (s.push (.ofCode (value * 16 + d))) .plain)
        | left + 1 => ([], .string s (.code left (value * 16 + d)))

/-- **One step of the machine**: the tokens that are complete after the character, and where the
machine then stands. -/
def step? (state : ScanState) (c : Char) : Option (List Token × ScanState) :=
  match state with
  | .between => start? c
  | .keyword [] _ => none
  | .keyword [l] token => if c = l then some ([token], .between) else none
  | .keyword (l :: rest) token => if c = l then some ([], .keyword rest token) else none
  | .number n =>
      match n.push? c with
      | some n => some ([], .number n)
      | none =>
          match n.finish? with
          | some n => (start? c).map fun (tokens, next) => (.number n :: tokens, next)
          | none => none
  | .string s phase => stepString? s phase c

/-- Where a scan stands: the tokens found, the last one first, and the machine's state. -/
abbrev Scan := List Token × ScanState

/-- One step of a scan. -/
def advance? (scan : Scan) (c : Char) : Option Scan :=
  (step? scan.2 c).map fun (tokens, state) => (tokens.reverse ++ scan.1, state)

/-- The tokens of a scan that ends here, the last one first. -/
def finish? (scan : Scan) : Option (List Token) :=
  match scan.2 with
  | .between => some scan.1
  | .number n => n.finish?.map fun n => .number n :: scan.1
  | _ => none

/-- Runs the machine over a text. -/
def scan? (start : Scan) (cs : List Char) : Option Scan := cs.foldlM advance? start

/-- The machine reads one text after the other. -/
theorem scan_append (start : Scan) (xs ys : List Char) :
    scan? start (xs ++ ys) = (scan? start xs).bind fun s => scan? s ys := by
  simp [scan?, List.foldlM_append, bind]

/-- **The tokens of a text**, if it has only such. -/
def ofText? (cs : List Char) : Option (List Token) :=
  ((scan? ([], .between) cs).bind finish?).map List.reverse

end Token

end TagTimeline.Json
