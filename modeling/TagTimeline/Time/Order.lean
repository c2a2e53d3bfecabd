import TagTimeline.Time.Rfc3339

/-!
# The Order of Stored Timestamps

The store keeps a timestamp as text, its offset in hours and minutes also where it is zero, and
compares timestamps as these texts. A text begins with the date and the time of day that the clock
shows. So among clocks of one offset, in the years that four digits can write, the order is that of
time. Clocks of different offsets are compared by what they show and not by their instants, and a
year with a sign comes before all years without one.

Every time that is taken when a row is created or changed is in UTC.

## Main results

* `Timestamp.notAfter` — the order of stored timestamps.
* `Timestamp.orderedWith_iff` — rows are ordered by time, and by id among rows of the same time.
-/

namespace TagTimeline.Time.Timestamp

/-- **A timestamp as it is stored.** -/
def storedText (t : Timestamp) : String :=
  String.ofList (renderWith (renderHours t.reading.offsetMinutes) t.reading)

/-- **The order of stored timestamps** is that of their texts. -/
def notAfter (a b : Timestamp) : Bool := decide (a.storedText ≤ b.storedText)

/-- **The order of rows by time**, as times are stored, and by id among rows of the same time. -/
def orderedWith (a b : Timestamp) (idA idB : String) : Bool :=
  if a.storedText = b.storedText then decide (idA ≤ idB) else a.notAfter b

/-- `notAfter` is reflexive. -/
theorem notAfter_refl (a : Timestamp) : notAfter a a = true :=
  decide_eq_true (String.le_refl a.storedText)

/-- Of two timestamps one is not after the other. -/
theorem notAfter_total (a b : Timestamp) : notAfter a b = true ∨ notAfter b a = true :=
  (String.le_total a.storedText b.storedText).imp decide_eq_true decide_eq_true

/-- `notAfter` is transitive. -/
theorem notAfter_trans {a b c : Timestamp} (hab : notAfter a b = true)
    (hbc : notAfter b c = true) : notAfter a c = true :=
  decide_eq_true (String.le_trans (of_decide_eq_true hab) (of_decide_eq_true hbc))

/-- **Rows are ordered by time**, and by id where neither time is after the other. -/
theorem orderedWith_iff {a b : Timestamp} {idA idB : String} :
    orderedWith a b idA idB = true ↔
      notAfter a b = true ∧ (notAfter b a = true → idA ≤ idB) := by
  unfold orderedWith
  split
  · next h =>
      have hab : notAfter a b = true := decide_eq_true (h ▸ String.le_refl _)
      have hba : notAfter b a = true := decide_eq_true (h ▸ String.le_refl _)
      simp [hab, hba]
  · next h =>
      refine ⟨fun hab => ⟨hab, fun hba => ?_⟩, fun hab => hab.1⟩
      exact absurd (String.le_antisymm (of_decide_eq_true hab) (of_decide_eq_true hba)) h

/-- Of two rows one does not come after the other. -/
theorem orderedWith_total (a b : Timestamp) (idA idB : String) :
    (orderedWith a b idA idB || orderedWith b a idB idA) = true := by
  rw [Bool.or_eq_true, orderedWith_iff, orderedWith_iff]
  rcases Bool.eq_false_or_eq_true (notAfter a b) with hab | hab
  · rcases Bool.eq_false_or_eq_true (notAfter b a) with hba | hba
    · rcases String.le_total idA idB with h | h
      · exact .inl ⟨hab, fun _ => h⟩
      · exact .inr ⟨hba, fun _ => h⟩
    · exact .inl ⟨hab, by simp [hba]⟩
  · rcases notAfter_total a b with h | h
    · simp [hab] at h
    · exact .inr ⟨h, by simp [hab]⟩

/-- `orderedWith` is transitive. -/
theorem orderedWith_trans {a b c : Timestamp} {idA idB idC : String}
    (hab : orderedWith a b idA idB = true) (hbc : orderedWith b c idB idC = true) :
    orderedWith a c idA idC = true := by
  rw [orderedWith_iff] at *
  refine ⟨notAfter_trans hab.1 hbc.1, fun hca => ?_⟩
  exact String.le_trans (hab.2 (notAfter_trans hbc.1 hca)) (hbc.2 (notAfter_trans hca hab.1))

end TagTimeline.Time.Timestamp
