import Mathlib.Data.List.Lex
import Mathlib.Data.String.Basic
import TagTimeline.Proofs.Text.Digits

/-!
# The Order of Written Numbers

Texts are ordered by their first difference. Two numbers written in one width differ in a digit, and
the first digit in which they do decides which number is smaller, whatever stands behind them.

## Main results

* `append_lt_append` — texts that differ within one length stay in order with anything behind them.
* `padded_append_lt_iff` — numbers in one width are in their order.
-/

namespace TagTimeline.Text

/-- Lists that differ within one length are in the same order with anything behind them. -/
theorem append_lt_append {xs ys : List Char} (h : xs < ys) (hlength : xs.length = ys.length)
    (xs' ys' : List Char) : xs ++ xs' < ys ++ ys' := by
  induction h with
  | nil => cases hlength
  | rel hfirst => exact List.Lex.rel hfirst
  | cons _ ih => exact List.Lex.cons (ih (Nat.succ.inj hlength))

/-- What stands in front of two texts does not matter for their order. -/
theorem append_lt_append_left_iff (xs : List Char) {ys zs : List Char} :
    xs ++ ys < xs ++ zs ↔ ys < zs := by
  induction xs with
  | nil => exact Iff.rfl
  | cons x xs ih => rw [List.cons_append, List.cons_append, List.cons_lt_cons_self, ih]

/-- The decimal digit of a number below ten. -/
def decimalDigit (d : Nat) : Char := Char.ofNat (d + '0'.toNat)

/-- Decimal digits are in the order of their values. -/
theorem decimalDigit_lt {a b : Nat} (hab : a < b) (hb : b < 10) :
    decimalDigit a < decimalDigit b := by
  have hall : ∀ b < 10, ∀ a < b, decimalDigit a < decimalDigit b := by decide
  exact hall b hb a hab

/-- A number below ten has one digit. -/
theorem natDigits_of_lt {n : Nat} (h : n < 10) : natDigits n = [decimalDigit n] := by
  rw [natDigits_eq, if_pos h, Nat.mod_eq_of_lt h]
  rfl

/-- A number below ten in a width of one is its digit. -/
theorem padded_one {n : Nat} (h : n < 10) : padded 1 n = [decimalDigit n] := by
  rw [padded, natDigits_of_lt h]
  rfl

/-- A number in a width is its tenth in a width one less, and a digit more. -/
theorem padded_succ (width n : Nat) :
    padded (width + 2) n = padded (width + 1) (n / 10) ++ [decimalDigit (n % 10)] := by
  by_cases hn : n < 10
  · rw [padded, padded, natDigits_of_lt hn, Nat.div_eq_of_lt hn, natDigits_of_lt (by decide),
      Nat.mod_eq_of_lt hn]
    exact congrArg (· ++ [decimalDigit n]) List.replicate_succ'
  · rw [padded, padded, natDigits_eq n, if_neg hn, List.length_append, List.length_singleton,
      ← List.append_assoc]
    congr 3
    omega

/-- A number in a width begins with what is left of it in a smaller one. -/
theorem exists_padded_append (front back n : Nat) :
    ∃ digits, padded (front + 1 + back) n = padded (front + 1) (n / 10 ^ back) ++ digits := by
  induction back generalizing n with
  | zero => exact ⟨[], by simp⟩
  | succ back ih =>
      obtain ⟨digits, hdigits⟩ := ih (n / 10)
      refine ⟨digits ++ [decimalDigit (n % 10)], ?_⟩
      rw [Nat.add_right_comm] at hdigits
      rw [← Nat.add_assoc, Nat.add_right_comm front, padded_succ, hdigits, Nat.pow_succ',
        ← Nat.div_div_eq_div_mul, List.append_assoc]

/-- Numbers that fit a width are equally long in it. -/
theorem length_padded_eq {width a b : Nat} (ha : a < 10 ^ (width + 1)) (hb : b < 10 ^ (width + 1)) :
    (padded (width + 1) a).length = (padded (width + 1) b).length := by
  rw [length_padded_of_lt rfl ha, length_padded_of_lt rfl hb]

/-- **Numbers written in one width** are in their order. -/
theorem padded_lt_padded {width a b : Nat} (hab : a < b) (hb : b < 10 ^ (width + 1)) :
    padded (width + 1) a < padded (width + 1) b := by
  induction width generalizing a b with
  | zero =>
      have hten : b < 10 := hb
      rw [padded_one hten, padded_one (Nat.lt_trans hab hten)]
      exact List.Lex.rel (decimalDigit_lt hab hten)
  | succ width ih =>
      rw [Nat.pow_succ] at hb
      rw [padded_succ, padded_succ]
      by_cases hfront : a / 10 < b / 10
      · have hfit : b / 10 < 10 ^ (width + 1) := by omega
        have hlength := length_padded_eq (Nat.lt_trans hfront hfit) hfit
        exact append_lt_append (ih hfront hfit) hlength _ _
      · -- all digits but the last agree
        have hsame : a / 10 = b / 10 := by omega
        rw [hsame, append_lt_append_left_iff]
        exact List.Lex.rel (decimalDigit_lt (by omega) (by omega))

/-- **Numbers written in one width decide the order** of what begins with them. -/
theorem padded_append_lt_iff {width a b : Nat} {xs ys : List Char} (ha : a < 10 ^ (width + 1))
    (hb : b < 10 ^ (width + 1)) :
    padded (width + 1) a ++ xs < padded (width + 1) b ++ ys ↔ a < b ∨ a = b ∧ xs < ys := by
  have hlength := length_padded_eq ha hb
  rcases Nat.lt_trichotomy a b with hab | rfl | hba
  · exact iff_of_true (append_lt_append (padded_lt_padded hab hb) hlength xs ys) (.inl hab)
  · simp [append_lt_append_left_iff]
  · have hafter := append_lt_append (padded_lt_padded hba ha) hlength.symm ys xs
    refine iff_of_false (List.lt_asymm hafter) ?_
    omega

end TagTimeline.Text
