import Mathlib.Data.List.GetD
import TagTimeline.Id
import TagTimeline.Proofs.Text.Order

/-!
# The Order of Generated Ids

Ids are compared as texts. All have the same number of digits and the alphabet is in the order of
its characters, so the order of ids is that of their numbers.

A generator does not go back, whatever the clock does: as long as the clock has not passed the
millisecond of the last number, the next number is one more, and behind it every number is greater.
So a batch is in strictly ascending order if the generator has a next number each time.

When the random bits of the last number are all ones there is none before the clock moves on. The
fresh id that stands in then knows nothing of the ids before it. Unless the clock has moved on in
the meantime it does not come after the last one, and it can even be the same: such a batch is not
in ascending order.

## Main results

* `Id.text_lt_text_iff` — ids are in the order of their numbers.
* `Id.pairwise_batch` — a batch with a next number each time is in ascending order.
* `Id.not_pairwise_batch` — a batch with a fresh id in place of a next one is not, unless the clock
  has moved on.
-/

namespace TagTimeline.Id

/-! ### The order of texts -/

/-- The alphabet has a character for each value. -/
theorem length_alphabet : alphabet.length = 32 := by decide

/-- A digit is a character of the alphabet. -/
theorem digit_eq_getElem {value : Nat} (h : value < alphabet.length) :
    digit value = alphabet[value] := by
  rw [digit, List.getD_eq_getElem _ _ h]

/-- Digits are in the order of their values. -/
theorem digit_lt_digit {a b : Nat} (hab : a < b) (hb : b < 32) : digit a < digit b := by
  have hascending : alphabet.Pairwise (· < ·) := by decide
  rw [← length_alphabet] at hb
  rw [digit_eq_getElem (Nat.lt_trans hab hb), digit_eq_getElem hb]
  exact List.pairwise_iff_getElem.mp hascending a b (Nat.lt_trans hab hb) hb hab

/-- **Digits are in the order of numbers** that they are enough for. -/
theorem digits_lt_digits {count a b : Nat} (hab : a < b) (hb : b < 32 ^ count) :
    digits count a < digits count b := by
  induction count generalizing a b with
  | zero =>
      rw [Nat.pow_zero] at hb
      omega
  | succ count ih =>
      rw [digits, digits]
      rw [Nat.pow_succ] at hb
      by_cases hfront : a / 32 < b / 32
      · exact Text.append_lt_append (ih hfront (by omega)) (by simp only [length_digits]) _ _
      · -- all digits but the last agree
        have hsame : a / 32 = b / 32 := by omega
        rw [hsame]
        refine List.append_left_lt (List.Lex.rel (digit_lt_digit ?_ ?_))
        · omega
        · omega

/-- How many numbers an id can have. -/
def span : Nat := timeSpan * randomSpan

/-- An id has digits enough for its number. -/
theorem span_le : span ≤ 32 ^ width := by decide

/-- Ids are in the order of their numbers. -/
theorem text_lt_text {a b : Nat} (hab : a < b) (hb : b < span) : text a < text b := by
  rw [String.lt_iff_toList_lt, text, text, String.toList_ofList, String.toList_ofList]
  exact digits_lt_digits hab (Nat.lt_of_lt_of_le hb span_le)

/-- **Ids are in the order of their numbers**, and only so. -/
theorem text_lt_text_iff {a b : Nat} (ha : a < span) (hb : b < span) :
    text a < text b ↔ a < b := by
  constructor
  · intro h
    by_contra hle
    rcases Nat.lt_or_eq_of_le (Nat.not_lt.mp hle) with hba | rfl
    · exact String.lt_asymm h (text_lt_text hba ha)
    · exact String.lt_irrefl _ h
  · intro h
    exact text_lt_text h hb

/-! ### What ids are made of -/

/-- The digits of an id are characters of the alphabet. -/
theorem mem_alphabet_of_mem_digits {count value : Nat} {c : Char} (h : c ∈ digits count value) :
    c ∈ alphabet := by
  induction count generalizing value with
  | zero => cases h
  | succ count ih =>
      rw [digits] at h
      rcases List.mem_append.mp h with hfront | hlast
      · exact ih hfront
      · have hvalue : value % 32 < alphabet.length := Nat.mod_lt _ (by decide)
        rw [List.mem_singleton.mp hlast, digit_eq_getElem hvalue]
        exact List.getElem_mem hvalue

/-- A batch is made of ids. -/
theorem exists_text_of_mem_batchFrom {last : Nat} {readings : List Reading} {id : String}
    (h : id ∈ batchFrom last readings) : ∃ value, id = text value := by
  induction readings generalizing last with
  | nil => cases h
  | cons reading more ih =>
      rw [batchFrom] at h
      split at h
      · rcases List.mem_cons.mp h with rfl | hmore
        · exact ⟨_, rfl⟩
        · exact ih hmore
      · rcases List.mem_cons.mp h with rfl | hmore
        · exact ⟨_, rfl⟩
        · exact ih hmore

/-- **Every id of a batch is well-formed**, whatever is read for it. -/
theorem wellFormed_of_mem_batch {readings : List Reading} {id : String} (h : id ∈ batch readings) :
    id.length = width ∧ ∀ c ∈ id.toList, c ∈ alphabet := by
  obtain ⟨value, rfl⟩ := exists_text_of_mem_batchFrom h
  refine ⟨length_text value, fun c hc => ?_⟩
  rw [text, String.toList_ofList] at hc
  exact mem_alphabet_of_mem_digits hc

/-! ### The numbers of a generator -/

/-- A millisecond has room for random numbers. -/
theorem randomSpan_pos : 0 < randomSpan := by decide

/-- The number of a fresh id fits an id. -/
theorem value_lt_span (draw : Draw) : draw.value < span := by
  have hmillis : draw.millis % timeSpan < timeSpan := Nat.mod_lt _ (by decide)
  have hrandom : draw.random % randomSpan < randomSpan := Nat.mod_lt _ randomSpan_pos
  calc draw.value
      < draw.millis % timeSpan * randomSpan + randomSpan := Nat.add_lt_add_left hrandom _
    _ = (draw.millis % timeSpan + 1) * randomSpan := (Nat.succ_mul _ _).symm
    _ ≤ span := Nat.mul_le_mul_right randomSpan hmillis

/-- **A generator does not go back**, while an id has room for what the clock shows. -/
theorem lt_of_next? {last value : Nat} {draw : Draw} (hclock : draw.millis < timeSpan)
    (h : next? last draw = some value) : last < value := by
  rw [next?] at h
  split at h
  · rw [successor?] at h
    split at h
    · cases h
    · cases h
      exact Nat.lt_succ_self last
  · next hpassed =>
      cases h
      have hlast : last < draw.millis * randomSpan :=
        (Nat.div_lt_iff_lt_mul randomSpan_pos).mp (Nat.not_le.mp hpassed)
      rw [Draw.value, Nat.mod_eq_of_lt hclock]
      exact Nat.lt_add_right _ hlast

/-- The next number of a generator fits an id. -/
theorem lt_span_of_next? {last value : Nat} {draw : Draw} (hlast : last < span)
    (h : next? last draw = some value) : value < span := by
  rw [next?] at h
  split at h
  · rw [successor?] at h
    split at h
    · cases h
    · next hones =>
        cases h
        have hmillis : last / randomSpan < timeSpan :=
          (Nat.div_lt_iff_lt_mul randomSpan_pos).mpr hlast
        have hrandom : last % randomSpan < randomSpan := Nat.mod_lt _ randomSpan_pos
        calc last + 1
            = randomSpan * (last / randomSpan) + (last % randomSpan + 1) := by
              rw [← Nat.add_assoc, Nat.div_add_mod]
          _ < randomSpan * (last / randomSpan) + randomSpan := by omega
          _ = (last / randomSpan + 1) * randomSpan := by rw [Nat.succ_mul, Nat.mul_comm]
          _ ≤ span := Nat.mul_le_mul_right randomSpan hmillis
  · cases h
    exact value_lt_span draw

/-- **The numbers of a batch**, if the generator has a next one each time. -/
def numbersFrom? (last : Nat) : List Reading → Option (List Nat)
  | [] => some []
  | reading :: more =>
      (next? last reading.attempt).bind fun value => (numbersFrom? value more).map (value :: ·)

variable {last : Nat} {readings : List Reading} {values : List Nat}

/-- As long as the generator has a next number each time there are no fresh ids in a batch. -/
theorem batchFrom_append (h : numbersFrom? last readings = some values) (more : List Reading) :
    batchFrom last (readings ++ more) =
      values.map text ++ batchFrom (values.getLastD last) more := by
  induction readings generalizing last values with
  | nil =>
      cases h
      rfl
  | cons reading readings ih =>
      obtain ⟨value, hnext, h⟩ := Option.bind_eq_some_iff.mp h
      obtain ⟨rest, hrest, rfl⟩ := Option.map_eq_some_iff.mp h
      rw [List.cons_append, batchFrom, hnext, List.map_cons, List.cons_append, List.getLastD_cons]
      exact congrArg (text value :: ·) (ih hrest)

/-- The numbers of a batch ascend from the last number before it. -/
theorem pairwise_numbersFrom? (hclock : ∀ reading ∈ readings, reading.attempt.millis < timeSpan)
    (hlast : last < span) (h : numbersFrom? last readings = some values) :
    (last :: values).Pairwise (· < ·) ∧ ∀ value ∈ values, value < span := by
  induction readings generalizing last values with
  | nil =>
      cases h
      simp
  | cons reading more ih =>
      obtain ⟨value, hnext, h⟩ := Option.bind_eq_some_iff.mp h
      obtain ⟨rest, hrest, rfl⟩ := Option.map_eq_some_iff.mp h
      have hspan : value < span := lt_span_of_next? hlast hnext
      have hstep : last < value := lt_of_next? (hclock reading List.mem_cons_self) hnext
      obtain ⟨hascending, hspans⟩ :=
        ih (fun other hother => hclock other (List.mem_cons_of_mem _ hother)) hspan hrest
      have hmore : ∀ number ∈ rest, value < number := (List.pairwise_cons.mp hascending).1
      refine ⟨List.pairwise_cons.mpr ⟨fun number hnumber => ?_, hascending⟩,
        fun number hnumber => ?_⟩
      · rcases List.mem_cons.mp hnumber with rfl | hnumber
        · exact hstep
        · exact Nat.lt_trans hstep (hmore number hnumber)
      · rcases List.mem_cons.mp hnumber with rfl | hnumber
        · exact hspan
        · exact hspans number hnumber

/-- **A batch is in strictly ascending order** if the generator has a next number each time, whether
the clock moves on, stands still or goes back. -/
theorem pairwise_batch (hclock : ∀ reading ∈ readings, reading.attempt.millis < timeSpan)
    (h : numbersFrom? 0 readings = some values) : (batch readings).Pairwise (· < ·) := by
  obtain ⟨hascending, hspans⟩ := pairwise_numbersFrom? hclock (by decide) h
  have hbatch : batch readings = values.map text := by
    have happend := batchFrom_append h []
    rwa [List.append_nil, batchFrom, List.append_nil] at happend
  rw [hbatch, List.pairwise_map]
  refine (List.Pairwise.of_cons hascending).imp_of_mem fun {a b} _ hb hab => ?_
  exact text_lt_text hab (hspans b hb)

/-! ### Fresh ids in a batch -/

/-- A fresh id in place of a next one does not come after the last one, unless the clock has moved
on in the meantime. -/
theorem not_lt_fresh {draw : Draw} (hlast : last < span)
    (hones : last % randomSpan = randomSpan - 1) (hclock : draw.millis ≤ millisOf last) :
    ¬ text last < fresh draw := by
  rw [fresh, text_lt_text_iff hlast (value_lt_span draw), Nat.not_lt]
  have hmillis : draw.millis % timeSpan ≤ last / randomSpan :=
    Nat.le_trans (Nat.mod_le _ _) hclock
  have hrandom : draw.random % randomSpan ≤ randomSpan - 1 :=
    Nat.le_pred_of_lt (Nat.mod_lt _ randomSpan_pos)
  calc draw.value
      ≤ last / randomSpan * randomSpan + (randomSpan - 1) :=
        Nat.add_le_add (Nat.mul_le_mul_right randomSpan hmillis) hrandom
    _ = last := by rw [← hones, Nat.div_add_mod']

/-- **A batch with a fresh id in place of a next one** is not in ascending order, unless the clock
has moved on from the last number by then. -/
theorem not_pairwise_batch {reading : Reading} (more : List Reading)
    (hclock : ∀ reading ∈ readings, reading.attempt.millis < timeSpan)
    (h : numbersFrom? 0 readings = some (values ++ [last]))
    (hones : last % randomSpan = randomSpan - 1)
    (hattempt : reading.attempt.millis ≤ millisOf last)
    (hfallback : reading.fallback.millis ≤ millisOf last) :
    ¬ (batch (readings ++ reading :: more)).Pairwise (· < ·) := by
  have hlast : last < span :=
    (pairwise_numbersFrom? hclock (by decide) h).2 last (List.mem_append_right _ List.mem_cons_self)
  have hnone : next? last reading.attempt = none := by
    rw [next?, if_pos hattempt, successor?, if_pos hones]
  have hbatch : batch (readings ++ reading :: more) =
      values.map text ++ [text last, fresh reading.fallback] ++ batchFrom last more := by
    rw [batch, batchFrom_append h, List.getLastD_concat, batchFrom, hnone]
    simp only [List.map_append, List.map_cons, List.map_nil, List.append_assoc, List.cons_append,
      List.nil_append]
  intro hascending
  rw [hbatch] at hascending
  have hpair := (List.pairwise_append.mp (List.pairwise_append.mp hascending).1).2.1
  exact not_lt_fresh hlast hones hfallback (List.rel_of_pairwise_cons hpair List.mem_cons_self)

/-- The clock stands still and all ones are drawn twice: both ids are the same. -/
example :
    let draw : Draw := ⟨1, randomSpan - 1⟩
    batch [⟨draw, draw⟩, ⟨draw, draw⟩] = [fresh draw, fresh draw] := by
  decide +kernel

end TagTimeline.Id
