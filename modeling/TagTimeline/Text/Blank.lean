/-!
# Blank Characters

Which characters count as blank, and how blank text is dropped from the two ends of a text. Blank
means Unicode's `White_Space` property: the ASCII blanks from tab to carriage return and the space,
the next-line and no-break spaces, and the spaces of the general punctuation and CJK blocks.

## Main results

* `isBlank` — which characters are blank.
* `trimStart`, `trimEnd` — a text without the blanks at an end.
-/

namespace TagTimeline.Text

/-- **Unicode `White_Space`**: the characters that separate words without showing. -/
def isBlank (c : Char) : Bool :=
  let n := c.toNat
  (9 ≤ n && n ≤ 13) || n == 0x20 || n == 0x85 || n == 0xA0 || n == 0x1680 ||
    (0x2000 ≤ n && n ≤ 0x200A) || n == 0x2028 || n == 0x2029 || n == 0x202F || n == 0x205F ||
    n == 0x3000

/-- The text without the blanks in front of it. -/
def trimStart (cs : List Char) : List Char := cs.dropWhile isBlank

/-- The text without the blanks behind it. -/
def trimEnd (cs : List Char) : List Char := (cs.reverse.dropWhile isBlank).reverse

/-- Cuts a text at every occurrence of a character, as many pieces as cuts and one more. -/
def splitAt (separator : Char) : List Char → List (List Char)
  | [] => [[]]
  | c :: cs =>
      if c = separator then [] :: splitAt separator cs
      else
        match splitAt separator cs with
        | [] => [[c]]
        | piece :: pieces => (c :: piece) :: pieces

/-- The text behind an opening text, if it opens that way. -/
def afterPrefix? : List Char → List Char → Option (List Char)
  | [], cs => some cs
  | _ :: _, [] => none
  | p :: ps, c :: cs => if p = c then afterPrefix? ps cs else none

/-- An opening text and what is behind it are the whole text. -/
theorem append_of_afterPrefix? {opening cs rest : List Char}
    (h : afterPrefix? opening cs = some rest) : cs = opening ++ rest := by
  induction opening generalizing cs with
  | nil => simpa [afterPrefix?] using h
  | cons p ps ih =>
      cases cs with
      | nil => simp [afterPrefix?] at h
      | cons c cs =>
          simp only [afterPrefix?] at h
          split at h
          · rename_i hp
            rw [hp, List.cons_append, ih h]
          · simp at h

/-- The text behind an opening text, which has a first character, as often as it is there. -/
def afterAll (first : Char) (opening : List Char) (cs : List Char) : List Char :=
  match _h : afterPrefix? (first :: opening) cs with
  | some rest => afterAll first opening rest
  | none => cs
termination_by cs.length
decreasing_by
  rw [append_of_afterPrefix? _h]
  simp only [List.cons_append, List.length_cons, List.length_append]
  omega

/-- A text in lower case, as far as ASCII letters go. -/
def lowerAscii (s : String) : String := String.ofList (s.toList.map Char.toLower)

end TagTimeline.Text
