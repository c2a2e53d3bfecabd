import TagTimeline.Text.Integer

/-!
# Numbers and Their Digits

Reading a number is the inverse of writing it, with or without zeros in front. Written digits are
digits of the base, there is one at least, and the first of them is no zero unless it is the only
one.

## Main results

* `readDigits?_append` — digits are read one run after the other.
* `readNat?_natDigits`, `readNat?_padded` — a number is read back from its digits.
* `length_padded` — how long a number in a fixed width is.
-/

namespace TagTimeline.Text

/-! ### Reading -/

/-- A character is a decimal digit exactly if it has a value as one. -/
theorem digitIn?_ten (c : Char) :
    digitIn? 10 c = if isDigit c then some (c.toNat - '0'.toNat) else none := by
  rw [digitIn?, digitValue?, isDigit]
  by_cases hdecimal : '0' ≤ c ∧ c ≤ '9'
  · have hle : c.toNat ≤ '9'.toNat := hdecimal.2
    have hlt : c.toNat - '0'.toNat < 10 := by
      have : '9'.toNat - '0'.toNat < 10 := by decide
      omega
    simp only [hdecimal, and_self, ↓reduceIte, decide_true, Option.filter_some, hlt]
  · simp only [hdecimal, ↓reduceIte, decide_false, Bool.false_eq_true]
    by_cases hlower : 'a' ≤ c ∧ c ≤ 'z'
    · simp [hlower]
    · by_cases hupper : 'A' ≤ c ∧ c ≤ 'Z'
      · simp [hlower, hupper]
      · simp [hlower, hupper]

/-- A decimal digit has a value. -/
theorem exists_digitIn?_iff {c : Char} : (∃ d, digitIn? 10 c = some d) ↔ isDigit c = true := by
  rw [digitIn?_ten]
  cases isDigit c <;> simp

/-- Only one character has the value zero. -/
theorem eq_zero_of_digitIn? {c : Char} (h : digitIn? 10 c = some 0) : c = '0' := by
  rw [digitIn?_ten] at h
  by_cases hdigit : isDigit c = true
  · have hle : '0'.toNat ≤ c.toNat := (of_decide_eq_true hdigit).1
    rw [if_pos hdigit] at h
    have hsub : c.toNat - '0'.toNat = 0 := Option.some.inj h
    exact Char.ext (UInt32.toNat_inj.mp (by simpa using Nat.le_antisymm (by omega) hle))
  · rw [if_neg hdigit] at h
    cases h

/-- **Digits are read one run after the other.** -/
theorem readDigits?_append (base n : Nat) (xs ys : List Char) :
    readDigits? base n (xs ++ ys) =
      (readDigits? base n xs).bind fun n => readDigits? base n ys := by
  induction xs generalizing n with
  | nil => rfl
  | cons c xs ih =>
      rw [List.cons_append, readDigits?, readDigits?]
      cases digitIn? base c with
      | none => rfl
      | some d => exact ih (n * base + d)

/-- A run of digits is read with one digit more behind it. -/
theorem readDigits?_concat {base n m d : Nat} {cs : List Char} {c : Char}
    (h : readDigits? base n cs = some m) (hd : digitIn? base c = some d) :
    readDigits? base n (cs ++ [c]) = some (m * base + d) := by
  rw [readDigits?_append, h, Option.bind_some, readDigits?, hd]
  rfl

/-- What is read as digits is made of digits. -/
theorem isDigit_of_readDigits? {n m : Nat} {cs : List Char} (h : readDigits? 10 n cs = some m) :
    ∀ c ∈ cs, isDigit c = true := by
  induction cs generalizing n with
  | nil => simp
  | cons c cs ih =>
      obtain ⟨d, hd, hcs⟩ := Option.bind_eq_some_iff.mp h
      intro c' hc'
      rcases List.mem_cons.mp hc' with rfl | hmem
      · exact exists_digitIn?_iff.mp ⟨d, hd⟩
      · exact ih hcs c' hmem

/-- Digits are a number unless there are none. -/
theorem readNat?_eq_some_iff {base n : Nat} {cs : List Char} :
    readNat? base cs = some n ↔ cs ≠ [] ∧ readDigits? base 0 cs = some n := by
  cases cs with
  | nil => simp [readNat?]
  | cons c cs => simp [readNat?]

/-- One digit is a number. -/
theorem readNat?_single {c : Char} {d : Nat} (h : digitIn? 10 c = some d) :
    readNat? 10 [c] = some d := by
  simp [readNat?, readDigits?, h]

/-- Zeros in front of digits change nothing. -/
theorem readDigits?_replicate_zero (count : Nat) (cs : List Char) :
    readDigits? 10 0 (List.replicate count '0' ++ cs) = readDigits? 10 0 cs := by
  induction count with
  | zero => rfl
  | succ count ih =>
      have hzero : digitIn? 10 '0' = some 0 := by decide
      rw [List.replicate_succ, List.cons_append, readDigits?, hzero]
      exact ih

/-! ### Writing -/

/-- The digits of a number are those of its tenth and one more. -/
theorem natDigits_eq (n : Nat) :
    natDigits n = (if n < 10 then [] else natDigits (n / 10)) ++
      [Char.ofNat (n % 10 + '0'.toNat)] := by
  rw [natDigits, digitsReversed]
  by_cases h : n < 10
  · rw [if_pos h, if_pos h, Nat.mod_eq_of_lt h]
    rfl
  · rw [if_neg h, if_neg h, List.reverse_cons, ← natDigits]

/-- A number below ten is read from its digit. -/
theorem digitIn?_digit {d : Nat} (h : d < 10) :
    digitIn? 10 (Char.ofNat (d + '0'.toNat)) = some d := by
  have hall : ∀ d < 10, digitIn? 10 (Char.ofNat (d + '0'.toNat)) = some d := by decide
  exact hall d h

/-- Writing a number takes a digit at least. -/
theorem natDigits_ne_nil (n : Nat) : natDigits n ≠ [] := by
  rw [natDigits_eq]
  exact List.append_ne_nil_of_right_ne_nil _ (List.cons_ne_nil _ _)

/-- The digits of a number have its value. -/
theorem readDigits?_natDigits (n : Nat) : readDigits? 10 0 (natDigits n) = some n := by
  induction n using Nat.strongRecOn with
  | ind n ih =>
      have hd := digitIn?_digit (Nat.mod_lt n (by omega : 10 > 0))
      rw [natDigits_eq]
      by_cases h : n < 10
      · have hsingle := readDigits?_concat (readDigits?.eq_1 10 0) hd
        rw [if_pos h, hsingle, Nat.mod_eq_of_lt h, Nat.zero_mul, Nat.zero_add]
      · have hvalue := readDigits?_concat (ih (n / 10) (by omega)) hd
        rw [if_neg h, hvalue]
        congr 1
        omega

/-- **A number is read back from its digits.** -/
theorem readNat?_natDigits (n : Nat) : readNat? 10 (natDigits n) = some n :=
  readNat?_eq_some_iff.mpr ⟨natDigits_ne_nil n, readDigits?_natDigits n⟩

/-- Only zero is written with a zero in front. -/
theorem head?_natDigits {n : Nat} (h : (natDigits n).head? = some '0') : natDigits n = ['0'] := by
  induction n using Nat.strongRecOn with
  | ind n ih =>
      rw [natDigits_eq] at h ⊢
      by_cases hn : n < 10
      · rw [if_pos hn, List.nil_append] at h ⊢
        rw [Option.some.inj h]
      · obtain ⟨c, hc⟩ := Option.ne_none_iff_exists'.mp
          (mt List.head?_eq_none_iff.mp (natDigits_ne_nil (n / 10)))
        rw [if_neg hn, List.head?_append, hc] at h
        -- a tenth that is written with a zero in front would be zero
        have htenth := ih (n / 10) (by omega) (hc.trans h)
        have hvalue := readDigits?_natDigits (n / 10)
        rw [htenth] at hvalue
        have hzero : readDigits? 10 0 ['0'] = some 0 := by decide
        have : n / 10 = 0 := Option.some.inj (hvalue.symm.trans hzero)
        omega

/-- A number below a power of ten is written with as many digits at most. -/
theorem length_natDigits_le {n width : Nat} (h : n < Nat.pow 10 (width + 1)) :
    (natDigits n).length ≤ width + 1 := by
  induction width generalizing n with
  | zero =>
      have hn : n < 10 := h
      rw [natDigits_eq, if_pos hn]
      simp
  | succ width ih =>
      rw [natDigits_eq]
      by_cases hn : n < 10
      · simp [hn]
      · have htenth : n / 10 < Nat.pow 10 (width + 1) := by
          have hpow : n < Nat.pow 10 (width + 1) * 10 := h
          omega
        have := ih htenth
        rw [if_neg hn, List.length_append, List.length_singleton]
        omega

/-- **A number is read back from its digits in a width.** -/
theorem readNat?_padded (width n : Nat) : readNat? 10 (padded width n) = some n := by
  refine readNat?_eq_some_iff.mpr ⟨?_, ?_⟩
  · exact List.append_ne_nil_of_right_ne_nil _ (natDigits_ne_nil n)
  · rw [padded, readDigits?_replicate_zero, readDigits?_natDigits]

/-- Only digits are written. -/
theorem isDigit_of_mem_padded {width n : Nat} {c : Char} (h : c ∈ padded width n) :
    isDigit c = true :=
  isDigit_of_readDigits? (readNat?_eq_some_iff.mp (readNat?_padded width n)).2 c h

/-- A number in a width is as wide, or as wide as its digits. -/
theorem length_padded (width n : Nat) :
    (padded width n).length = max width (natDigits n).length := by
  rw [padded, List.length_append, List.length_replicate]
  omega

/-- A number below a power of ten fits the width. -/
theorem length_padded_of_lt {width n bound : Nat} (hbound : Nat.pow 10 (width + 1) = bound)
    (h : n < bound) : (padded (width + 1) n).length = width + 1 := by
  have := length_natDigits_le (hbound ▸ h)
  rw [length_padded]
  omega

end TagTimeline.Text
