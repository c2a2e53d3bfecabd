import TagTimeline.Json.Token

/-!
# TOML Strings

The quoted strings of TOML. Double quotes allow escapes, single quotes take everything as it
stands. Three quotes open a string of several lines: a line break right behind them is dropped, up
to two quotes may stand right before the closing ones, and, between double quotes, a backslash at
the end of a line drops everything up to the next character that is no blank. A line break is a
line feed, whichever way it is written.

## Main results

* `Quoted.read?` — a string from its opening quote, and the rest of the text.
-/

namespace TagTimeline.Toml.Quoted

open Json

/-- A string's text and what follows the string. -/
abbrev Result := Option (String × List Char)

/-- A control character that no TOML text holds; the tab is allowed. -/
def isControl (c : Char) : Bool := (c.toNat < 0x20 && c != '\t') || c.toNat == 0x7f

/-- The text of characters collected with the last one first. -/
def done (reversed : List Char) (rest : List Char) : Result :=
  some (String.ofList reversed.reverse, rest)

/-- The value of hexadecimal digits. -/
def hex? (cs : List Char) : Option Nat :=
  cs.foldlM (fun n c => (Token.hexDigit? c).map fun d => n * 16 + d) 0

/-- The character with a code, which surrogates and numbers too great are not. -/
def scalar? (code : Nat) : Option Char := if code.isValidChar then some (Char.ofNat code) else none

/-- The character of a one-letter escape. -/
def escaped? (c : Char) : Option Char := if c = '/' then none else Token.escaped? c

/-- A string between single quotes. -/
def literal (reversed : List Char) : List Char → Result
  | [] => none
  | '\x27' :: rest => done reversed rest
  | c :: rest => if isControl c then none else literal (c :: reversed) rest

/-- A string between double quotes. -/
def basic (reversed : List Char) : List Char → Result
  | [] => none
  | '\x22' :: rest => done reversed rest
  | '\x5c' :: 'u' :: a :: b :: c :: d :: rest =>
      match (hex? [a, b, c, d]).bind scalar? with
      | some e => basic (e :: reversed) rest
      | none => none
  | '\x5c' :: 'U' :: a :: b :: c :: d :: e :: f :: g :: h :: rest =>
      match (hex? [a, b, c, d, e, f, g, h]).bind scalar? with
      | some e => basic (e :: reversed) rest
      | none => none
  | '\x5c' :: c :: rest =>
      match escaped? c with
      | some e => basic (e :: reversed) rest
      | none => none
  | c :: rest => if isControl c || c == '\x5c' then none else basic (c :: reversed) rest

/-- A string of several lines between single quotes. -/
def literalLines (reversed : List Char) : List Char → Result
  | [] => none
  | '\x27' :: '\x27' :: '\x27' :: '\x27' :: '\x27' :: rest =>
      done ('\x27' :: '\x27' :: reversed) rest
  | '\x27' :: '\x27' :: '\x27' :: '\x27' :: rest => done ('\x27' :: reversed) rest
  | '\x27' :: '\x27' :: '\x27' :: rest => done reversed rest
  | '\r' :: '\n' :: rest => literalLines ('\n' :: reversed) rest
  | '\n' :: rest => literalLines ('\n' :: reversed) rest
  | c :: rest => if isControl c then none else literalLines (c :: reversed) rest

/-- Where a string of several lines between double quotes stands. -/
inductive Trim where
  /-- Characters are taken. -/
  | none
  /-- Behind a backslash that has to end the line. -/
  | toLineEnd
  /-- On the lines behind such a backslash. -/
  | blanks
  deriving DecidableEq

/-- A string of several lines between double quotes. -/
def basicLines (trim : Trim) (reversed : List Char) : List Char → Result
  | [] => none
  | '\n' :: rest =>
      if trim = .none then basicLines .none ('\n' :: reversed) rest
      else basicLines .blanks reversed rest
  | '\r' :: '\n' :: rest =>
      if trim = .none then basicLines .none ('\n' :: reversed) rest
      else basicLines .blanks reversed rest
  | '\x22' :: '\x22' :: '\x22' :: '\x22' :: '\x22' :: rest =>
      if trim = .toLineEnd then none else done ('\x22' :: '\x22' :: reversed) rest
  | '\x22' :: '\x22' :: '\x22' :: '\x22' :: rest =>
      if trim = .toLineEnd then none else done ('\x22' :: reversed) rest
  | '\x22' :: '\x22' :: '\x22' :: rest =>
      if trim = .toLineEnd then none else done reversed rest
  | '\x5c' :: 'u' :: a :: b :: c :: d :: rest =>
      if trim = .toLineEnd then none
      else
        match (hex? [a, b, c, d]).bind scalar? with
        | some e => basicLines .none (e :: reversed) rest
        | none => none
  | '\x5c' :: 'U' :: a :: b :: c :: d :: e :: f :: g :: h :: rest =>
      if trim = .toLineEnd then none
      else
        match (hex? [a, b, c, d, e, f, g, h]).bind scalar? with
        | some e => basicLines .none (e :: reversed) rest
        | none => none
  | '\x5c' :: '\r' :: '\n' :: rest =>
      if trim = .toLineEnd then none else basicLines .blanks reversed rest
  | '\x5c' :: c :: rest =>
      if trim = .toLineEnd then none
      else if c = '\n' then basicLines .blanks reversed rest
      else if c = ' ' ∨ c = '\t' then basicLines .toLineEnd reversed rest
      else
        match escaped? c with
        | some e => basicLines .none (e :: reversed) rest
        | none => none
  | c :: rest =>
      if trim ≠ .none ∧ (c = ' ' ∨ c = '\t') then basicLines trim reversed rest
      else if trim = .toLineEnd ∨ isControl c ∨ c = '\x5c' then none
      else basicLines .none (c :: reversed) rest

/-- A text without a line break right at its start. -/
def dropBreak : List Char → List Char
  | '\n' :: rest => rest
  | '\r' :: '\n' :: rest => rest
  | cs => cs

/-- A string of one line, from its opening quote. -/
def readLine? : List Char → Result
  | '\x22' :: rest => basic [] rest
  | '\x27' :: rest => literal [] rest
  | _ => none

/-- **A string**, from its opening quote, and what follows it. -/
def read? : List Char → Result
  | '\x22' :: '\x22' :: '\x22' :: rest => basicLines .none [] (dropBreak rest)
  | '\x27' :: '\x27' :: '\x27' :: rest => literalLines [] (dropBreak rest)
  | cs => readLine? cs

end TagTimeline.Toml.Quoted
