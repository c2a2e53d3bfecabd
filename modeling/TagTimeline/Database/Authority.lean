import TagTimeline.Text.Blank
import TagTimeline.Text.Integer

/-!
# The Authority of a URL

What stands behind the two slashes of a URL: who asks, the host, and the port. A host in brackets is
an address of eight groups of hexadecimal digits, in which two colons stand for one or more groups
of zeros, and of which the last two may be written as four decimal numbers. Any other host is a name
without certain characters; it may be empty unless somebody asks or there is a port.

## Main results

* `Authority.isWellFormed` — whether a text can follow the two slashes.
-/

namespace TagTimeline.Authority

open Text

/-- The number of groups of an address. -/
def groupCount : Nat := 8

/-- Whether a text is a decimal number below 256 without leading zeros. -/
def isOctet (cs : List Char) : Bool :=
  cs.all isDigit && (readNat? 10 cs).any (· < 256) && (cs.length == 1 || cs.head? != some '0')

/-- Whether a text is four such numbers with points between them. -/
def isDottedQuad (cs : List Char) : Bool :=
  let octets := splitAt '.' cs
  octets.length == 4 && octets.all isOctet

/-- Whether a character is a hexadecimal digit. -/
def isHexDigit (c : Char) : Bool := (digitIn? 16 c).isSome

/-- Whether the rest of an address is well-formed behind `count` groups. `shortened` tells whether
two colons have stood for groups already; they count as one. -/
def areGroups : Nat → Nat → Bool → List Char → Bool
  | _, count, shortened, [] => shortened || count == groupCount
  | 0, _, _, _ => false
  | steps + 1, count, shortened, cs =>
      if count = groupCount then false
      else if cs.head? = some ':' then !shortened && areGroups steps (count + 1) true (cs.drop 1)
      else
        let digits := (cs.take 4).takeWhile isHexDigit
        match cs.drop digits.length with
        | [] => areGroups steps (count + 1) shortened []
        | ':' :: rest => !rest.isEmpty && areGroups steps (count + 1) shortened rest
        | '.' :: _ =>
            !digits.isEmpty && isDottedQuad cs && count + 2 ≤ groupCount &&
              (shortened || count + 2 == groupCount)
        | _ => false

/-- Whether a text is an address of eight groups. -/
def isAddress (cs : List Char) : Bool :=
  match cs with
  | ':' :: ':' :: rest => areGroups cs.length 1 true rest
  | ':' :: _ => false
  | [] => false
  | _ => areGroups cs.length 0 false cs

/-- Whether a character is forbidden in the name of a host. -/
def isForbidden (c : Char) : Bool :=
  "\x00\t\n\r #/:<>?@[\\]^|".toList.contains c

/-- Whether a text can be a host. -/
def isHost (cs : List Char) : Bool :=
  match cs with
  | '[' :: inner => inner.getLast? == some ']' && isAddress inner.dropLast
  | _ => !cs.any isForbidden

/-- The host at the front of a text: up to a colon that is not in brackets. -/
def takeHost (inBrackets : Bool) : List Char → List Char × List Char
  | [] => ([], [])
  | c :: rest =>
      if c = ':' ∧ !inBrackets then ([], c :: rest)
      else
        let (host, more) :=
          takeHost (if c = '[' then true else if c = ']' then false else inBrackets) rest
        (c :: host, more)

/-- Whether a text can be the port of a URL, which may be empty. A backslash ends it. -/
def isPort (cs : List Char) : Bool :=
  let digits := cs.takeWhile (· != '\\')
  digits.all isDigit && (readNat? 10 digits).all (· < Nat.pow 2 16)

/-- Whether a host and a port may stand where nobody asks. -/
def isPlace (cs : List Char) : Bool :=
  let (host, port) := takeHost false cs
  isHost host && (!host.isEmpty || port.isEmpty) && isPort (port.drop 1)

/-- Whether a character ends an authority. -/
def isEnd (c : Char) : Bool := c == '/' || c == '?' || c == '#'

/-- **Whether a text can follow the two slashes of a URL.** Who asks is what stands before the last
at sign; before it, nothing at all is possible only at the very end of the URL, and nothing but a
colon is nobody. -/
def isWellFormed (cs : List Char) : Bool :=
  let authority := cs.takeWhile fun c => !isEnd c
  if authority.contains '@' then
    let place := ((splitAt '@' authority).getLast?).getD []
    let asker := authority.take (authority.length - place.length - 1)
    isPlace place &&
      (if asker.isEmpty then !place.isEmpty || cs.length == authority.length
        else asker == [':'] || !(takeHost false place).1.isEmpty)
  else isPlace authority

end TagTimeline.Authority
