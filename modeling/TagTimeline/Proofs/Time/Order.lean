import Mathlib.Tactic.Tauto
import TagTimeline.Proofs.Text.Order
import TagTimeline.Time.Order

/-!
# Stored Timestamps and Time

The parts of a stored timestamp are written from the greatest to the smallest, each in a width of
its own, so clocks of one offset are compared part by part. The digits of a second are the
exception: only as many are written as are needed. Behind them stands the sign of the offset, which
comes before the point and before every digit, and so before digits that another timestamp goes on
with.

## Main results

* `Timestamp.renderWith_lt_iff` — texts with one offset are in the order of what the clocks show.
* `Timestamp.notAfter_eq_notLater` — stored timestamps with one offset are in the order of their
  instants.
-/

namespace TagTimeline.Time.Timestamp

open TagTimeline.Text

/-! ### Fractions of seconds -/

section

variable {n m : Nat} {offset : List Char}

/-- The digits of a second that is no full one, in writing. -/
theorem exists_renderFraction (h : n ≠ 0) :
    ∃ kept dropped, kept + 1 + dropped = 9 ∧ n % 10 ^ dropped = 0 ∧
      renderFraction n = '.' :: padded (kept + 1) (n / 10 ^ dropped) := by
  rw [renderFraction, if_neg h]
  by_cases hmillis : n % 1000000 = 0
  · exact ⟨2, 6, rfl, hmillis, if_pos hmillis⟩
  by_cases hmicros : n % 1000 = 0
  · exact ⟨5, 3, rfl, hmicros, by rw [if_neg hmillis, if_pos hmicros]; rfl⟩
  · exact ⟨8, 0, rfl, Nat.mod_one n, by rw [if_neg hmillis, if_neg hmicros]; simp⟩

/-- All nine digits are not before the digits that are written. -/
theorem renderFraction_le (n : Nat) (hsign : ∀ c ∈ offset.head?, c < '.') :
    renderFraction n ++ offset ≤ '.' :: (padded 9 n ++ offset) := by
  by_cases hn : n = 0
  · rw [hn]
    cases offset with
    | nil => exact le_of_lt List.Lex.nil
    | cons sign offset => exact le_of_lt (List.Lex.rel (hsign sign rfl))
  · obtain ⟨kept, dropped, hnine, -, hwritten⟩ := exists_renderFraction hn
    obtain ⟨digits, hdigits⟩ := exists_padded_append kept dropped n
    rw [hnine] at hdigits
    rw [hwritten, hdigits, List.cons_append, List.append_assoc]
    cases hmore : digits with
    | nil => exact le_refl _
    | cons digit more =>
      have hdigit : digit ∈ padded 9 n := hdigits ▸ hmore ▸ by simp
      have hpoint : '.' < digit :=
        lt_of_lt_of_le (by decide) (of_decide_eq_true (isDigit_of_mem_padded hdigit)).1
      refine le_of_lt (List.Lex.cons ((append_lt_append_left_iff _).mpr ?_))
      cases offset with
      | nil => exact List.Lex.nil
      | cons sign offset => exact List.Lex.rel (lt_trans (hsign sign rfl) hpoint)

/-- The digits that are written are behind all nine digits of a smaller number. -/
theorem lt_renderFraction (hm : m < 1000000000) (h : n < m) :
    '.' :: (padded 9 n ++ offset) < renderFraction m ++ offset := by
  obtain ⟨kept, dropped, hnine, hexact, hwritten⟩ := exists_renderFraction (Nat.ne_zero_of_lt h)
  obtain ⟨digits, hdigits⟩ := exists_padded_append kept dropped n
  have hless : n / 10 ^ dropped < m / 10 ^ dropped :=
    Nat.div_lt_div_of_lt_of_dvd (Nat.dvd_of_mod_eq_zero hexact) h
  have hfits : m / 10 ^ dropped < 10 ^ (kept + 1) := by
    refine Nat.div_lt_of_lt_mul ?_
    rwa [Nat.mul_comm, ← Nat.pow_add, hnine]
  rw [hnine] at hdigits
  rw [hwritten, hdigits, List.cons_append, List.append_assoc, List.cons_lt_cons_self,
    padded_append_lt_iff (Nat.lt_trans hless hfits) hfits]
  exact .inl hless

/-- **Digits of a second are in the order of their values**, however many are written. -/
theorem renderFraction_lt_iff (hn : n < 1000000000) (hm : m < 1000000000)
    (hsign : ∀ c ∈ offset.head?, c < '.') :
    renderFraction n ++ offset < renderFraction m ++ offset ↔ n < m := by
  have hless : ∀ {n m}, m < 1000000000 → n < m →
      renderFraction n ++ offset < renderFraction m ++ offset := fun hm h =>
    lt_of_le_of_lt (renderFraction_le _ hsign) (lt_renderFraction hm h)
  refine ⟨fun h => ?_, hless hm⟩
  rcases Nat.lt_trichotomy n m with hlt | rfl | hgt
  · exact hlt
  · exact absurd h (lt_irrefl _)
  · exact absurd (hless hn hgt) (lt_asymm h)

end

/-! ### Clocks of one offset -/

section

variable {r r' : ClockReading} {offset : List Char}

/-- The years that four digits can write, which are also those that need no sign. -/
def isPlainYear (year : Int) : Bool := 0 ≤ year && year ≤ 9999

/-- A year that four digits can write is written with them. -/
theorem renderYear_of_isPlainYear {year : Int} (h : isPlainYear year = true) :
    renderYear year = padded 4 year.toNat ∧ year.toNat < 10 ^ 4 ∧ year = year.toNat := by
  simp only [isPlainYear, Bool.and_eq_true, decide_eq_true_eq] at h
  have habs : year.natAbs = year.toNat := by omega
  exact ⟨by rw [renderYear, if_pos h, habs], by omega, by omega⟩

/-- Seconds since midnight. -/
def secondOfDay (r : ClockReading) : Nat := r.hour * 3600 + r.minute * 60 + r.second

/-- A day has 86400 seconds. -/
theorem secondOfDay_lt (hr : r.IsValid) : secondOfDay r < 86400 := by
  obtain ⟨-, -, -, -, hhour, hminute, hsecond, -⟩ := hr
  unfold secondOfDay
  omega

/-- An instant is told by the day, the time of day and the offset. -/
theorem unixSeconds_eq (t : Timestamp) :
    t.unixSeconds = dayNumber t.reading.year t.reading.month t.reading.day * 86400 +
      secondOfDay t.reading - t.reading.offsetMinutes * 60 := by
  rw [unixSeconds, ClockReading.unixSeconds, secondOfDay]
  omega

/-- Times of day are written in their order, a leap second behind the second it is counted as. -/
theorem renderTime_lt_iff (hr : r.IsValid) (hr' : r'.IsValid)
    (hsign : ∀ c ∈ offset.head?, c < '.') :
    renderTime offset r < renderTime offset r' ↔
      secondOfDay r < secondOfDay r' ∨
        secondOfDay r = secondOfDay r' ∧ r.nanosecond < r'.nanosecond := by
  have hshown := shownSecond_lt hr
  have hshown' := shownSecond_lt hr'
  have hdigits := shownNanosecond_lt hr
  have hdigits' := shownNanosecond_lt hr'
  obtain ⟨-, -, -, -, hhour, hminute, hsecond, hnanos, hleap, -⟩ := hr
  obtain ⟨-, -, -, -, hhour', hminute', hsecond', hnanos', hleap', -⟩ := hr'
  rw [renderTime, renderTime, padded_append_lt_iff (by omega) (by omega), List.cons_lt_cons_self,
    padded_append_lt_iff (by omega) (by omega), List.cons_lt_cons_self,
    padded_append_lt_iff hshown hshown', renderFraction_lt_iff hdigits hdigits' hsign]
  unfold shownSecond shownNanosecond secondOfDay
  split <;> split <;> omega

/-- **Texts with one offset are in the order of what the clocks show**: by day, then by time. -/
theorem renderWith_lt_iff (hr : r.IsValid) (hr' : r'.IsValid) (hyear : isPlainYear r.year = true)
    (hyear' : isPlainYear r'.year = true) :
    renderWith offset r < renderWith offset r' ↔
      dayNumber r.year r.month r.day < dayNumber r'.year r'.month r'.day ∨
        dayNumber r.year r.month r.day = dayNumber r'.year r'.month r'.day ∧
          renderTime offset r < renderTime offset r' := by
  obtain ⟨-, -, hday, hlast, -⟩ := hr
  obtain ⟨-, -, hday', hlast', -⟩ := hr'
  obtain ⟨hwritten, hdigits, hsame⟩ := renderYear_of_isPlainYear hyear
  obtain ⟨hwritten', hdigits', hsame'⟩ := renderYear_of_isPlainYear hyear'
  have hmonth := month_le_of_daysInMonth hday hlast
  have hmonth' := month_le_of_daysInMonth hday' hlast'
  have hbefore : r.year.toNat < r'.year.toNat ↔ r.year < r'.year := by omega
  have hequal : r.year.toNat = r'.year.toNat ↔ r.year = r'.year := by omega
  rw [renderWith, renderWith, hwritten, hwritten', padded_append_lt_iff hdigits hdigits',
    List.cons_lt_cons_self, padded_append_lt_iff (by omega) (by omega), List.cons_lt_cons_self,
    padded_append_lt_iff (by omega) (by omega), List.cons_lt_cons_self,
    dayNumber_lt_iff hday hlast hday' hlast', dayNumber_eq_iff hday hlast hday' hlast', hbefore,
    hequal]
  tauto

end

/-! ### Instants -/

/-- Whether one instant is not later than another. -/
def notLater (a b : Timestamp) : Bool :=
  a.unixSeconds < b.unixSeconds ||
    (a.unixSeconds == b.unixSeconds && decide (a.reading.nanosecond ≤ b.reading.nanosecond))

/-- Whether a timestamp has an offset and a year that four digits can write. -/
def IsPlainAt (offsetMinutes : Int) (t : Timestamp) : Prop :=
  t.reading.offsetMinutes = offsetMinutes ∧ isPlainYear t.reading.year = true

/-- **Stored timestamps with one offset are in the order of their instants**, in the years that four
digits can write. -/
theorem notAfter_eq_notLater {a b : Timestamp} {offsetMinutes : Int}
    (ha : a.IsPlainAt offsetMinutes) (hb : b.IsPlainAt offsetMinutes) :
    notAfter a b = notLater a b := by
  have hsign : ∀ c ∈ (renderHours offsetMinutes).head?, c < '.' := by
    rw [renderHours]
    rintro c ⟨⟩
    split <;> decide
  have hlater : notLater a b = false ↔ b.unixSeconds < a.unixSeconds ∨
      b.unixSeconds = a.unixSeconds ∧ b.reading.nanosecond < a.reading.nanosecond := by
    simp only [notLater, Bool.or_eq_false_iff, Bool.and_eq_false_iff, decide_eq_false_iff_not,
      beq_eq_false_iff_ne]
    omega
  have hbefore : b.storedText < a.storedText ↔ notLater a b = false := by
    have hday := secondOfDay_lt a.valid
    have hday' := secondOfDay_lt b.valid
    rw [String.lt_iff_toList_lt, storedText, storedText, String.toList_ofList, String.toList_ofList,
      ha.1, hb.1, renderWith_lt_iff b.valid a.valid hb.2 ha.2,
      renderTime_lt_iff b.valid a.valid hsign, hlater, unixSeconds_eq, unixSeconds_eq, ha.1, hb.1]
    omega
  rw [notAfter, Bool.eq_iff_iff, decide_eq_true_iff, ← String.not_lt, hbefore, Bool.not_eq_false]

/-- Clocks of different offsets are compared by what they show: 13:00 at an offset of an hour is
stored behind 12:30 in UTC, which is the later instant. -/
example :
    let east : Timestamp := ⟨⟨2024, 5, 6, 13, 0, 0, 0, 60⟩, by decide⟩
    let utc : Timestamp := ⟨⟨2024, 5, 6, 12, 30, 0, 0, 0⟩, by decide⟩
    notAfter east utc = false ∧ notLater east utc = true := by
  decide +kernel

end TagTimeline.Time.Timestamp
