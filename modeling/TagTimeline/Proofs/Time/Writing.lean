import TagTimeline.Proofs.Text.Digits
import TagTimeline.Time.Document

/-!
# Reading Times That Were Written

A timestamp is read back from its writing: the same parts, so the same instant to the nanosecond and
the same offset. Every part is written with as many digits as are read of it, or with something
behind it that is no digit.

## Main results

* `Timestamp.readParts?_render` — the parts of a timestamp are read back.
* `Timestamp.read?_toText` — a timestamp is read back from its writing.
-/

namespace TagTimeline.Text

/-- No digit is a blank. -/
theorem isBlank_of_isDigit {c : Char} (h : isDigit c = true) : isBlank c = false := by
  have hlow : '0'.toNat ≤ c.toNat := (of_decide_eq_true h).1
  have hhigh : c.toNat ≤ '9'.toNat := (of_decide_eq_true h).2
  simp only [Char.reduceToNat] at hlow hhigh
  simp only [isBlank, Bool.or_eq_false_iff, Bool.and_eq_false_iff, decide_eq_false_iff_not,
    beq_eq_false_iff_ne]
  omega

/-- Nothing is trimmed from a text that does not begin with a blank. -/
theorem trimStart_of_head? {cs : List Char} (h : ∀ c ∈ cs.head?, isBlank c = false) :
    trimStart cs = cs := by
  cases cs with
  | nil => rfl
  | cons c cs => rw [trimStart, List.dropWhile_cons, h c rfl, if_neg Bool.false_ne_true]

/-- Digits are taken up to what is no digit. -/
theorem takeWhile_isDigit {ds rest : List Char} (hds : ∀ c ∈ ds, isDigit c = true)
    (hrest : ∀ c ∈ rest.head?, isDigit c = false) : (ds ++ rest).takeWhile isDigit = ds := by
  rw [List.takeWhile_append_of_pos hds]
  cases rest with
  | nil => rw [List.takeWhile_nil, List.append_nil]
  | cons c rest => rw [List.takeWhile_cons, hrest c rfl, if_neg Bool.false_ne_true, List.append_nil]

/-- Digits that are written are not blank at the start. -/
theorem isBlank_head?_append {ds rest : List Char} {n : Nat} (h : readNat? 10 ds = some n) :
    ∀ c ∈ (ds ++ rest).head?, isBlank c = false := by
  obtain ⟨hnil, hvalue⟩ := readNat?_eq_some_iff.mp h
  cases ds with
  | nil => exact absurd rfl hnil
  | cons d ds =>
      intro c hc
      obtain rfl : d = c := Option.some.inj hc
      exact isBlank_of_isDigit (isDigit_of_readDigits? hvalue d List.mem_cons_self)

end TagTimeline.Text

namespace TagTimeline.Time

open TagTimeline.Text

namespace Timestamp

/-! ### Parts -/

section

variable {rest : List Char} {n : Nat}

/-- **A number is taken** with all its digits, where no more are wanted or no more are there. -/
theorem takeNumber?_append {most : Nat} {ds : List Char} (hvalue : readNat? 10 ds = some n)
    (hlength : ds.length ≤ most)
    (hend : ds.length = most ∨ ∀ c ∈ rest.head?, isDigit c = false) :
    takeNumber? most (ds ++ rest) = some (n, rest) := by
  have hdigits := isDigit_of_readDigits? (readNat?_eq_some_iff.mp hvalue).2
  have htaken : ((ds ++ rest).take most).takeWhile isDigit = ds := by
    rw [List.take_append, List.take_of_length_le hlength]
    refine takeWhile_isDigit hdigits fun c hc => ?_
    rcases hend with hfull | hrest
    · rw [hfull, Nat.sub_self] at hc
      cases hc
    · rw [List.head?_take] at hc
      split at hc
      · cases hc
      · exact hrest c hc
  rw [takeNumber?, trimStart_of_head? (isBlank_head?_append hvalue)]
  simp only [htaken, hvalue, Option.map_some, List.drop_left]

/-- What is written in a width begins with a digit. -/
theorem exists_cons_padded (width n : Nat) :
    ∃ c cs, padded width n = c :: cs ∧ isDigit c = true := by
  cases hdigits : padded width n with
  | nil => exact absurd hdigits (readNat?_eq_some_iff.mp (readNat?_padded width n)).1
  | cons c cs =>
      have hc : c ∈ padded width n := hdigits ▸ List.mem_cons_self
      exact ⟨c, cs, rfl, isDigit_of_mem_padded hc⟩

/-- Two digits are taken. -/
theorem takeNumber?_padded (h : n < 100) : takeNumber? 2 (padded 2 n ++ rest) = some (n, rest) := by
  have hlength : (padded 2 n).length = 2 := length_padded_of_lt rfl h
  exact takeNumber?_append (readNat?_padded 2 n) (Nat.le_of_eq hlength) (.inl hlength)

/-- A mark that is no blank is taken. -/
theorem takeMark?_cons {mark : Char} (h : isBlank mark = false) :
    takeMark? mark (mark :: rest) = some rest := by
  have htrim : trimStart (mark :: rest) = mark :: rest :=
    trimStart_of_head? fun c hc => Option.some.inj hc ▸ h
  rw [takeMark?, htrim]
  simp

/-- **A year is taken** as it is written. -/
theorem takeYear?_renderYear (year : Int) :
    takeYear? (renderYear year ++ '-' :: rest) = some (year, '-' :: rest) := by
  have hvalue := readNat?_padded 4 year.natAbs
  have hrest : ∀ c ∈ ('-' :: rest).head?, isDigit c = false := by
    rintro c ⟨⟩
    decide
  have hall : takeNumber? (padded 4 year.natAbs ++ '-' :: rest).length
      (padded 4 year.natAbs ++ '-' :: rest) = some (year.natAbs, '-' :: rest) :=
    takeNumber?_append hvalue (by simp) (.inr hrest)
  obtain ⟨c, cs, hdigits, hc⟩ := exists_cons_padded 4 year.natAbs
  have hfirst : ((padded 4 year.natAbs ++ '-' :: rest).head?.any isDigit) = true := by
    rw [hdigits]
    exact hc
  rw [renderYear]
  by_cases hplain : 0 ≤ year ∧ year ≤ 9999
  · have hlength : (padded 4 year.natAbs).length = 4 :=
      length_padded_of_lt rfl (by omega : year.natAbs < 10000)
    have htaken : takeNumber? 4 (padded 4 year.natAbs ++ '-' :: rest) =
        some (year.natAbs, '-' :: rest) :=
      takeNumber?_append hvalue (Nat.le_of_eq hlength) (.inl hlength)
    have hnosign : ∀ sign, isDigit sign = false → c ≠ sign := by
      rintro sign hsign rfl
      rw [hc] at hsign
      cases hsign
    rw [if_pos hplain, takeYear?, trimStart_of_head? (isBlank_head?_append hvalue)]
    split
    · next hminus =>
        rw [hdigits] at hminus
        exact absurd (List.cons.inj hminus).1 (hnosign '-' rfl)
    · next hplus =>
        rw [hdigits] at hplus
        exact absurd (List.cons.inj hplus).1 (hnosign '+' rfl)
    · have habs : (year.natAbs : Int) = year := by omega
      simp only [htaken, Option.map_some, habs]
  · rw [if_neg hplain, List.cons_append]
    by_cases hnegative : year < 0
    · have htrim : trimStart ('-' :: (padded 4 year.natAbs ++ '-' :: rest)) =
          '-' :: (padded 4 year.natAbs ++ '-' :: rest) :=
        trimStart_of_head? (by rintro c ⟨⟩; decide)
      have habs : -(year.natAbs : Int) = year := by omega
      rw [if_pos hnegative, takeYear?, htrim]
      simp only [hfirst, hall, if_true, Option.map_some, habs]
    · have htrim : trimStart ('+' :: (padded 4 year.natAbs ++ '-' :: rest)) =
          '+' :: (padded 4 year.natAbs ++ '-' :: rest) :=
        trimStart_of_head? (by rintro c ⟨⟩; decide)
      have habs : (year.natAbs : Int) = year := by omega
      rw [if_neg hnegative, takeYear?, htrim]
      simp only [hfirst, hall, if_true, Option.map_some, habs]

/-- The digits of a second are taken, if what follows is neither a point nor a digit. -/
theorem takeFraction?_renderFraction (h : n < 1000000000)
    (hrest : ∀ c ∈ rest.head?, c ≠ '.' ∧ isDigit c = false) :
    takeFraction? (renderFraction n ++ rest) = some (n, rest) := by
  have hdigits : ∀ c ∈ rest.head?, isDigit c = false := fun c hc => (hrest c hc).2
  have hpoint : ∀ width value, (padded (width + 1) value).length = width + 1 → width < 9 →
      takeFraction? ('.' :: padded (width + 1) value ++ rest) =
        some (value * Nat.pow 10 (9 - (width + 1)), rest) := by
    intro width value hlength hwidth
    have hall : ∀ c ∈ padded (width + 1) value, isDigit c = true := fun c => isDigit_of_mem_padded
    have htaken := takeWhile_isDigit hall hdigits
    have hkept : (padded (width + 1) value).take 9 = padded (width + 1) value :=
      List.take_of_length_le (by omega)
    rw [List.cons_append, takeFraction?]
    simp only [htaken, hkept, readNat?_padded, Option.map_some]
    rw [List.drop_left, hlength]
  rw [renderFraction]
  by_cases hzero : n = 0
  · rw [if_pos hzero, List.nil_append, hzero]
    cases rest with
    | nil => rfl
    | cons c rest =>
        rw [takeFraction?]
        rintro rest' ⟨⟩
        exact (hrest '.' rfl).1 rfl
  rw [if_neg hzero]
  by_cases hmillis : n % 1000000 = 0
  · have hlength : (padded 3 (n / 1000000)).length = 3 :=
      length_padded_of_lt rfl (by omega : n / 1000000 < 1000)
    rw [if_pos hmillis, hpoint 2 _ hlength (by omega)]
    congr 2
    exact Nat.div_mul_cancel (Nat.dvd_of_mod_eq_zero hmillis)
  rw [if_neg hmillis]
  by_cases hmicros : n % 1000 = 0
  · have hlength : (padded 6 (n / 1000)).length = 6 :=
      length_padded_of_lt rfl (by omega : n / 1000 < 1000000)
    rw [if_pos hmicros, hpoint 5 _ hlength (by omega)]
    congr 2
    exact Nat.div_mul_cancel (Nat.dvd_of_mod_eq_zero hmicros)
  · have hlength : (padded 9 n).length = 9 := length_padded_of_lt rfl h
    rw [if_neg hmicros, hpoint 8 _ hlength (by omega)]
    exact congrArg (fun n => some (n, rest)) (Nat.mul_one n)

/-- Two digits are taken of an offset. -/
theorem takeTwoDigits?_padded (h : n < 100) :
    takeTwoDigits? (padded 2 n ++ rest) = some (n, rest) := by
  have hlength : (padded 2 n).length = 2 := length_padded_of_lt rfl h
  have hvalue := readNat?_padded 2 n
  obtain ⟨a, b, hab⟩ : ∃ a b, padded 2 n = [a, b] := by
    match hdigits : padded 2 n, hlength with
    | [a, b], _ => exact ⟨a, b, rfl⟩
  have ha : isDigit a = true := isDigit_of_mem_padded (hab ▸ List.mem_cons_self : a ∈ padded 2 n)
  have hb : isDigit b = true :=
    isDigit_of_mem_padded (hab ▸ List.mem_cons_of_mem a List.mem_cons_self : b ∈ padded 2 n)
  rw [hab] at hvalue ⊢
  simp [takeTwoDigits?, ha, hb, hvalue]

/-- **An offset is taken** as it is written. -/
theorem takeOffset?_renderOffset {minutes : Int} (hlow : -1440 < minutes) (hhigh : minutes < 1440) :
    takeOffset? (renderOffset minutes) = some (minutes, []) := by
  have hsize : takeOffsetSize? (padded 2 (minutes.natAbs / 60) ++ ':' ::
      padded 2 (minutes.natAbs % 60)) = some (minutes.natAbs, []) := by
    have hminutes : takeTwoDigits? (padded 2 (minutes.natAbs % 60)) =
        some (minutes.natAbs % 60, []) := by
      have htaken : takeTwoDigits? (padded 2 (minutes.natAbs % 60) ++ []) =
          some (minutes.natAbs % 60, []) := takeTwoDigits?_padded (by omega)
      rwa [List.append_nil] at htaken
    obtain ⟨c, cs, hdigits, hc⟩ := exists_cons_padded 2 (minutes.natAbs % 60)
    have hcolon : c ≠ ':' := by
      rintro rfl
      cases hc
    have hdrop :
        ((':' :: padded 2 (minutes.natAbs % 60)).dropWhile fun c => c == ':' || isBlank c) =
        padded 2 (minutes.natAbs % 60) := by
      rw [hdigits]
      simp [hcolon, isBlank_of_isDigit hc]
    have hbound : minutes.natAbs % 60 ≤ 59 := by omega
    rw [takeOffsetSize?, takeTwoDigits?_padded (by omega)]
    have hsum : minutes.natAbs / 60 * 60 + minutes.natAbs % 60 = minutes.natAbs := by omega
    simp only [hdrop, hminutes, bind, Option.bind_some, if_pos hbound, hsum]
  rw [renderOffset]
  by_cases hzero : minutes = 0
  · rw [if_pos hzero, hzero]
    rfl
  rw [if_neg hzero, renderHours]
  have hutc : ∀ sign cs, Char.toLower sign ≠ 'u' →
      String.ofList (((sign :: cs).take 3).map Char.toLower) ≠ "utc" := by
    intro sign cs hsign h
    have hlist := congrArg String.toList h
    rw [String.toList_ofList, List.take_succ_cons, List.map_cons] at hlist
    exact hsign (List.cons.inj hlist).1
  by_cases hnegative : minutes < 0
  · have habs : -(minutes.natAbs : Int) = minutes := by omega
    rw [if_pos hnegative, takeOffset?, if_neg (hutc '-' _ (by decide))]
    simp only [hsize, Option.map_some, habs]
  · have habs : (minutes.natAbs : Int) = minutes := by omega
    rw [if_neg hnegative, takeOffset?, if_neg (hutc '+' _ (by decide))]
    simp only [hsize, Option.map_some, habs]

end

/-! ### Timestamps -/

/-- What is written for the second of a minute and the digits behind it tells them. -/
theorem second_render {r : ClockReading} (h : r.IsValid) :
    (if shownSecond r = 60 then (59, shownNanosecond r + 1000000000)
      else (shownSecond r, shownNanosecond r)) = (r.second, r.nanosecond) := by
  obtain ⟨-, -, -, -, -, -, hsecond, -, hleap, -⟩ := h
  by_cases hleapSecond : 1000000000 ≤ r.nanosecond
  · have hsum : r.nanosecond - 1000000000 + 1000000000 = r.nanosecond :=
      Nat.sub_add_cancel hleapSecond
    rw [shownSecond, shownNanosecond, if_pos hleapSecond, if_pos hleapSecond, hleap hleapSecond,
      if_pos rfl, hsum]
  · rw [shownSecond, shownNanosecond, if_neg hleapSecond, if_neg hleapSecond, if_neg (by omega)]

/-- An offset in writing starts with a letter or a sign. -/
theorem head?_renderOffset {minutes : Int} {c : Char} (hc : c ∈ (renderOffset minutes).head?) :
    isBlank c = false ∧ c ≠ '.' ∧ isDigit c = false := by
  rw [renderOffset] at hc
  split at hc
  · obtain rfl : 'Z' = c := Option.some.inj hc
    decide
  · rw [renderHours] at hc
    split at hc
    · obtain rfl : '-' = c := Option.some.inj hc
      decide
    · obtain rfl : '+' = c := Option.some.inj hc
      decide

/-- **The parts of a timestamp are read back** from its writing. -/
theorem readParts?_render (t : Timestamp) : readParts? t.render = some t.reading := by
  have hread := second_render t.valid
  obtain ⟨-, -, hfirst, hday, hhour, hminute, -, -, -, hlow, hhigh, -⟩ := t.valid
  obtain ⟨-, hmonth, hlast⟩ := month_le_of_daysInMonth hfirst hday
  have hdash : isBlank '-' = false := by decide
  have hcolon : isBlank ':' = false := by decide
  have hseparator : ∀ rest, takeSeparator? ('T' :: rest) = some rest := fun _ => rfl
  have htrim : trimStart (renderOffset t.reading.offsetMinutes) =
      renderOffset t.reading.offsetMinutes :=
    trimStart_of_head? fun c hc => (head?_renderOffset hc).1
  rw [render, renderWith, renderTime, readParts?]
  refine Option.bind_eq_some_iff.mpr ⟨_, takeYear?_renderYear _, ?_⟩
  refine Option.bind_eq_some_iff.mpr ⟨_, takeMark?_cons hdash, ?_⟩
  refine Option.bind_eq_some_iff.mpr ⟨_, takeNumber?_padded (by omega), ?_⟩
  refine Option.bind_eq_some_iff.mpr ⟨_, takeMark?_cons hdash, ?_⟩
  refine Option.bind_eq_some_iff.mpr ⟨_, takeNumber?_padded (by omega), ?_⟩
  refine Option.bind_eq_some_iff.mpr ⟨_, hseparator _, ?_⟩
  refine Option.bind_eq_some_iff.mpr ⟨_, takeNumber?_padded (by omega), ?_⟩
  refine Option.bind_eq_some_iff.mpr ⟨_, takeMark?_cons hcolon, ?_⟩
  refine Option.bind_eq_some_iff.mpr ⟨_, takeNumber?_padded (by omega), ?_⟩
  refine Option.bind_eq_some_iff.mpr ⟨_, takeMark?_cons hcolon, ?_⟩
  refine Option.bind_eq_some_iff.mpr ⟨_, takeNumber?_padded (shownSecond_lt t.valid), ?_⟩
  refine Option.bind_eq_some_iff.mpr ⟨_, takeFraction?_renderFraction (shownNanosecond_lt t.valid)
    fun c hc => (head?_renderOffset hc).2, ?_⟩
  refine Option.bind_eq_some_iff.mpr ⟨_, htrim.symm ▸ takeOffset?_renderOffset hlow hhigh, ?_⟩
  refine Option.bind_eq_some_iff.mpr ⟨(), rfl, ?_⟩
  by_cases hleap : shownSecond t.reading = 60
  · rw [if_pos hleap] at hread ⊢
    obtain ⟨hread, hread'⟩ := Prod.mk.inj hread
    rw [hread, hread']
  · rw [if_neg hleap] at hread ⊢
    obtain ⟨hread, hread'⟩ := Prod.mk.inj hread
    rw [hread, hread']

/-- **A timestamp is read back** from its writing. -/
theorem read?_toText (t : Timestamp) : read? t.toText = some t := by
  rw [read?, toText, String.toList_ofList, readParts?_render, Option.bind_some,
    ofParts?_eq_some]

end Timestamp

end TagTimeline.Time
