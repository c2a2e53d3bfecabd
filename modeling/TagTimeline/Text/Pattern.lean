/-!
# Search Patterns

Patterns over text with two wildcards: `%` stands for any run of characters, the empty one
included, and `_` for exactly one character. There is no escape character, so both are always
wildcards. Every other character stands for itself, ASCII letters in either case. Both the pattern
and the text end at their first NUL character.

## Main results

* `Matches` — what a pattern means, as a relation on its own.
* `matches_iff` — the matcher decides exactly that relation.
-/

namespace TagTimeline.Text.Pattern

/-- A character up to the case of ASCII letters; no other letter has a case here. -/
def fold (c : Char) : Char := c.toLower

/-- Whether a character of a pattern, other than the wildcard for runs, stands for a character. -/
def standsFor (p c : Char) : Bool := p = '_' || fold p = fold c

/-- For each place whether some place from it on is marked. -/
def anyFrom : List Bool → List Bool
  | [] => []
  | b :: rest =>
      let later := anyFrom rest
      (b || later.headD false) :: later

/-- For each tail of a text whether it starts with a character that `p` stands for and goes on with
a tail that is marked. -/
def oneThen (p : Char) : List Char → List Bool → List Bool
  | c :: text, _ :: marks => (standsFor p c && marks.headD false) :: oneThen p text marks
  | _, _ => [false]

/-- **For each tail of a text, the whole text first, whether it matches a pattern.** The answers for
a pattern follow from those for the rest of it, so the work is bounded by the product of the two
lengths. -/
def matchingTails : List Char → List Char → List Bool
  | [], text => text.map (fun _ => false) ++ [true]
  | p :: pattern, text =>
      let marks := matchingTails pattern text
      if p = '%' then anyFrom marks else oneThen p text marks

/-- Whether a text matches a pattern from its first to its last character. -/
def matchesChars (pattern text : List Char) : Bool := (matchingTails pattern text).headD false

/-- **What a pattern means**: `%` skips any run of characters, `_` exactly one, and any other
character one that equals it up to the case of ASCII letters. -/
inductive Matches : List Char → List Char → Prop
  | done : Matches [] []
  | run {pattern text tail : List Char} (skipped : List Char) (eq : text = skipped ++ tail)
      (rest : Matches pattern tail) : Matches ('%' :: pattern) text
  | one {pattern text : List Char} (c : Char) (rest : Matches pattern text) :
      Matches ('_' :: pattern) (c :: text)
  | same {p c : Char} {pattern text : List Char} (plain : p ≠ '%') (eq : fold p = fold c)
      (rest : Matches pattern text) : Matches (p :: pattern) (c :: text)

/-- There is an answer for the whole text. -/
theorem matchingTails_ne_nil (pattern text : List Char) : matchingTails pattern text ≠ [] := by
  induction pattern with
  | nil => simp [matchingTails]
  | cons p pattern ih =>
      simp only [matchingTails]
      split
      · obtain ⟨b, marks, h⟩ := List.exists_cons_of_ne_nil ih
        simp [h, anyFrom]
      · cases text with
        | nil => simp [oneThen]
        | cons c text => cases h : matchingTails pattern (c :: text) <;> simp [oneThen]

/-- The answers for a text are the one for the text and those for the rest of it. -/
theorem tail_matchingTails (pattern : List Char) (c : Char) (text : List Char) :
    (matchingTails pattern (c :: text)).tail = matchingTails pattern text := by
  induction pattern with
  | nil => simp [matchingTails]
  | cons p pattern ih =>
      obtain ⟨b, marks, h⟩ := List.exists_cons_of_ne_nil (matchingTails_ne_nil pattern (c :: text))
      rw [h, List.tail_cons] at ih
      simp only [matchingTails, h]
      split
      · rw [anyFrom, List.tail_cons, ih]
      · rw [oneThen, List.tail_cons, ih]

/-- Only the empty text matches the empty pattern. -/
theorem matchesChars_nil (text : List Char) : matchesChars [] text = text.isEmpty := by
  cases text <;> rfl

/-- The wildcard for runs may stand for the empty run. -/
theorem matchesChars_run_nil (pattern : List Char) :
    matchesChars ('%' :: pattern) [] = matchesChars pattern [] := by
  have : ∀ pattern, (matchingTails pattern []).length = 1 := by
    intro pattern
    induction pattern with
    | nil => rfl
    | cons p pattern ih =>
        obtain ⟨b, h⟩ := List.length_eq_one_iff.1 ih
        simp only [matchingTails, h]
        split <;> simp [anyFrom, oneThen]
  obtain ⟨b, h⟩ := List.length_eq_one_iff.1 (this pattern)
  simp [matchesChars, matchingTails, h, anyFrom]

/-- The wildcard for runs may stand for the empty run or take a character. -/
theorem matchesChars_run_cons (pattern : List Char) (c : Char) (text : List Char) :
    matchesChars ('%' :: pattern) (c :: text) =
      (matchesChars pattern (c :: text) || matchesChars ('%' :: pattern) text) := by
  have hrest := tail_matchingTails pattern c text
  obtain ⟨b, marks, h⟩ := List.exists_cons_of_ne_nil (matchingTails_ne_nil pattern (c :: text))
  rw [h, List.tail_cons] at hrest
  simp only [matchesChars, matchingTails, ↓reduceIte, h, anyFrom, hrest, List.headD_cons]

/-- Any other character of a pattern takes a character. -/
theorem matchesChars_one_nil {p : Char} (hp : p ≠ '%') (pattern : List Char) :
    matchesChars (p :: pattern) [] = false := by
  simp [matchesChars, matchingTails, hp, oneThen]

/-- Any other character of a pattern takes a character that it stands for. -/
theorem matchesChars_one_cons {p : Char} (hp : p ≠ '%') (pattern : List Char) (c : Char)
    (text : List Char) :
    matchesChars (p :: pattern) (c :: text) = (standsFor p c && matchesChars pattern text) := by
  have hrest := tail_matchingTails pattern c text
  obtain ⟨b, marks, h⟩ := List.exists_cons_of_ne_nil (matchingTails_ne_nil pattern (c :: text))
  rw [h, List.tail_cons] at hrest
  simp only [matchesChars, matchingTails, hp, ↓reduceIte, h, oneThen, hrest, List.headD_cons]

/-- A run may be longer by one character. -/
theorem Matches.longer {pattern text : List Char} (h : Matches ('%' :: pattern) text) (c : Char) :
    Matches ('%' :: pattern) (c :: text) := by
  cases h with
  | run skipped eq rest => exact .run (c :: skipped) (by rw [eq]; rfl) rest
  | same plain _ _ => exact absurd rfl plain

/-- **The matcher decides the meaning of a pattern.** -/
theorem matches_iff {pattern text : List Char} :
    matchesChars pattern text = true ↔ Matches pattern text := by
  induction pattern generalizing text with
  | nil =>
      rw [matchesChars_nil, List.isEmpty_iff]
      constructor
      · rintro rfl; exact .done
      · intro h; cases h; rfl
  | cons p pattern ih =>
      by_cases hp : p = '%'
      · subst hp
        induction text with
        | nil =>
            rw [matchesChars_run_nil, ih]
            constructor
            · exact fun h => .run [] rfl h
            · intro h
              cases h with
              | run skipped eq rest =>
                  obtain ⟨rfl, rfl⟩ := List.append_eq_nil_iff.1 eq.symm
                  exact rest
        | cons c text iht =>
            rw [matchesChars_run_cons, Bool.or_eq_true, ih, iht]
            constructor
            · rintro (h | h)
              · exact .run [] rfl h
              · exact h.longer c
            · intro h
              cases h with
              | run skipped eq rest =>
                  cases skipped with
                  | nil => exact Or.inl (by rw [eq]; exact rest)
                  | cons d skipped =>
                      rw [List.cons_append, List.cons.injEq] at eq
                      exact Or.inr (.run skipped eq.2 rest)
              | same plain _ _ => exact absurd rfl plain
      · cases text with
        | nil =>
            rw [matchesChars_one_nil hp]
            simp only [Bool.false_eq_true, false_iff]
            intro h; cases h; exact hp rfl
        | cons c text =>
            rw [matchesChars_one_cons hp, Bool.and_eq_true, ih, standsFor, Bool.or_eq_true,
              decide_eq_true_eq, decide_eq_true_eq]
            constructor
            · rintro ⟨rfl | h, hr⟩
              · exact .one c hr
              · exact .same hp h hr
            · intro h
              cases h with
              | run _ _ _ => exact absurd rfl hp
              | one _ hr => exact ⟨Or.inl rfl, hr⟩
              | same _ he hr => exact ⟨Or.inr he, hr⟩

/-- The part of a text that patterns see: up to its first NUL character. -/
def visible (s : String) : List Char := s.toList.takeWhile (· ≠ '\x00')

/-- **Whether a text matches a pattern.** -/
def like (pattern text : String) : Bool := matchesChars (visible pattern) (visible text)

/-- The pattern for texts that begin with the given text. -/
def startingWith (s : String) : String := s ++ "%"

/-- The pattern for texts that hold the given text anywhere. -/
def containing (s : String) : String := "%" ++ s ++ "%"

end TagTimeline.Text.Pattern
