import Mathlib.Data.List.Pairwise
import Mathlib.Data.List.Sort

/-!
# Stable Sorting

The store sorts the rows of an answer after it has chosen them. Sorting is stable, so rows may as
well be chosen from the sorted table: an answer with fewer rows has them in the order of an answer
with more.

## Main results

* `Sorting.filter_mergeSort` — choosing rows and sorting them can be exchanged.
* `Sorting.sublist_mergeSort` — rows are in the order in which they are among more rows.
* `Sorting.mergeSort_concat` — where one row more is put.
* `Sorting.pairwise_mergeSort_distinct` — rows with keys of their own stay apart.
* `Sorting.mergeSort_eq_of_pairwise` — rows that are in strict order are what sorting makes of them.
* `Sorting.eq_of_mem_iff` — a strict order leaves one list with some rows.
-/

namespace TagTimeline.Sorting

variable {Row : Type}

/-- A part of a list that is split where a condition ends is split in that way by the parts of the
list. -/
theorem sublist_of_split {p : Row → Bool} {l₁ l₂ m₁ m₂ : List Row}
    (h : (l₁ ++ l₂).Sublist (m₁ ++ m₂)) (hl₁ : ∀ b ∈ l₁, p b = true) (hl₂ : ∀ b ∈ l₂, ¬ p b = true)
    (hm₁ : ∀ b ∈ m₁, p b = true) (hm₂ : ∀ b ∈ m₂, ¬ p b = true) :
    l₁.Sublist m₁ ∧ l₂.Sublist m₂ := by
  have hkept := h.filter p
  have hleft := h.filter fun b => !p b
  rw [List.filter_append, List.filter_append, List.filter_eq_self.mpr hl₁,
    List.filter_eq_nil_iff.mpr hl₂, List.filter_eq_self.mpr hm₁, List.filter_eq_nil_iff.mpr hm₂,
    List.append_nil, List.append_nil] at hkept
  rw [List.filter_append, List.filter_append, List.filter_eq_nil_iff.mpr (by simpa using hl₁),
    List.filter_eq_self.mpr (by simpa using hl₂), List.filter_eq_nil_iff.mpr (by simpa using hm₁),
    List.filter_eq_self.mpr (by simpa using hm₂), List.nil_append, List.nil_append] at hleft
  exact ⟨hkept, hleft⟩

/-- A list split where a condition ends is split in one way only. -/
theorem eq_of_split {p : Row → Bool} {l₁ l₂ m₁ m₂ : List Row} (h : l₁ ++ l₂ = m₁ ++ m₂)
    (hl₁ : ∀ b ∈ l₁, p b = true) (hl₂ : ∀ b ∈ l₂, ¬ p b = true) (hm₁ : ∀ b ∈ m₁, p b = true)
    (hm₂ : ∀ b ∈ m₂, ¬ p b = true) : l₁ = m₁ ∧ l₂ = m₂ := by
  obtain ⟨h₁, h₂⟩ := sublist_of_split (h ▸ List.Sublist.refl _) hl₁ hl₂ hm₁ hm₂
  obtain ⟨h₁', h₂'⟩ := sublist_of_split (h ▸ List.Sublist.refl _) hm₁ hm₂ hl₁ hl₂
  exact ⟨h₁.antisymm h₁', h₂.antisymm h₂'⟩

/-- **Choosing rows and sorting them can be exchanged.** -/
theorem filter_mergeSort {le : Row → Row → Bool}
    (trans : ∀ a b c, le a b = true → le b c = true → le a c = true)
    (total : ∀ a b, (le a b || le b a) = true) (p : Row → Bool) (rows : List Row) :
    (rows.mergeSort le).filter p = (rows.filter p).mergeSort le := by
  induction rows with
  | nil => simp
  | cons a rows ih =>
      obtain ⟨l₁, l₂, hcons, hrows, hl₁⟩ := List.mergeSort_cons trans total a rows
      have hsorted := List.pairwise_mergeSort trans total (a :: rows)
      rw [hcons, List.pairwise_append, List.pairwise_cons] at hsorted
      rw [hrows, List.filter_append] at ih
      rw [hcons, List.filter_append]
      by_cases ha : p a = true
      · rw [List.filter_cons_of_pos ha, List.filter_cons_of_pos ha]
        obtain ⟨m₁, m₂, hcons', hrows', hm₁⟩ :=
          List.mergeSort_cons trans total a (rows.filter p)
        have hsorted' := List.pairwise_mergeSort trans total (a :: rows.filter p)
        rw [hcons', List.pairwise_append, List.pairwise_cons] at hsorted'
        -- Both sorts put `a` in front of the first row that it may precede.
        obtain ⟨h₁, h₂⟩ := eq_of_split (p := fun b => !le a b) (ih.trans hrows')
          (fun b hb => hl₁ b (List.mem_of_mem_filter hb))
          (fun b hb => by simpa using hsorted.2.1.1 b (List.mem_of_mem_filter hb))
          hm₁ (fun b hb => by simpa using hsorted'.2.1.1 b hb)
        rw [hcons', h₁, h₂]
      · rw [List.filter_cons_of_neg ha, List.filter_cons_of_neg ha, ih]

/-- **Rows are in the order in which they are among more rows.** -/
theorem sublist_mergeSort {le : Row → Row → Bool}
    (trans : ∀ a b c, le a b = true → le b c = true → le a c = true)
    (total : ∀ a b, (le a b || le b a) = true) {rows rows' : List Row} (h : rows.Sublist rows') :
    (rows.mergeSort le).Sublist (rows'.mergeSort le) := by
  induction h with
  | slnil => exact List.Sublist.refl _
  | @cons rows rows' a _ ih =>
      obtain ⟨m₁, m₂, hcons, hrows, -⟩ := List.mergeSort_cons trans total a rows'
      rw [hrows] at ih
      rw [hcons]
      exact ih.trans (List.Sublist.append_left (List.sublist_cons_self a m₂) m₁)
  | @cons_cons rows rows' a _ ih =>
      obtain ⟨l₁, l₂, hcons, hrows, hl₁⟩ := List.mergeSort_cons trans total a rows
      obtain ⟨m₁, m₂, hcons', hrows', hm₁⟩ := List.mergeSort_cons trans total a rows'
      have hsorted := List.pairwise_mergeSort trans total (a :: rows)
      have hsorted' := List.pairwise_mergeSort trans total (a :: rows')
      rw [hcons, List.pairwise_append, List.pairwise_cons] at hsorted
      rw [hcons', List.pairwise_append, List.pairwise_cons] at hsorted'
      rw [hrows, hrows'] at ih
      rw [hcons, hcons']
      obtain ⟨h₁, h₂⟩ := sublist_of_split (p := fun b => !le a b) ih hl₁
        (fun b hb => by simpa using hsorted.2.1.1 b hb) hm₁
        (fun b hb => by simpa using hsorted'.2.1.1 b hb)
      exact h₁.append (h₂.cons_cons a)

/-- A list with one row more than a part of it has the row somewhere among the others. -/
theorem exists_split_of_sublist {l m : List Row} (h : l.Sublist m)
    (hlength : m.length = l.length + 1) :
    ∃ front row back, l = front ++ back ∧ m = front ++ row :: back := by
  induction h with
  | slnil => cases hlength
  | cons a hsub ih =>
      obtain rfl := hsub.eq_of_length (Nat.succ.inj hlength).symm
      exact ⟨[], a, _, rfl, rfl⟩
  | cons_cons a _ ih =>
      obtain ⟨front, row, back, rfl, rfl⟩ := ih (Nat.succ.inj hlength)
      exact ⟨a :: front, row, back, rfl, rfl⟩

/-- **One row more** is put somewhere among the others, which stay in their order. -/
theorem mergeSort_concat {le : Row → Row → Bool}
    (trans : ∀ a b c, le a b = true → le b c = true → le a c = true)
    (total : ∀ a b, (le a b || le b a) = true) (rows : List Row) (row : Row) :
    ∃ front back, rows.mergeSort le = front ++ back ∧
      (rows ++ [row]).mergeSort le = front ++ row :: back := by
  have hsub := sublist_mergeSort trans total (List.sublist_append_left rows [row])
  obtain ⟨front, row', back, hrows, hmore⟩ := exists_split_of_sublist hsub (by simp)
  have hperm : (row' :: (front ++ back)).Perm (row :: (front ++ back)) :=
    calc (row' :: (front ++ back)).Perm (front ++ row' :: back) := List.perm_middle.symm
      _ = (rows ++ [row]).mergeSort le := hmore.symm
      List.Perm _ (rows ++ [row]) := List.mergeSort_perm _ le
      List.Perm _ (row :: rows) := List.perm_append_singleton row rows
      List.Perm _ (row :: rows.mergeSort le) := (List.mergeSort_perm rows le).symm.cons row
      _ = row :: (front ++ back) := by rw [hrows]
  have hsame : [row'].Perm [row] := (List.perm_append_right_iff (front ++ back)).mp hperm
  obtain rfl := List.singleton_perm_singleton.mp hsame
  exact ⟨front, back, hrows, hmore⟩

/-- **Rows with keys of their own** are in order, and no two of them have one key. -/
theorem pairwise_mergeSort_distinct {Key : Type} {le : Row → Row → Bool}
    (trans : ∀ a b c, le a b = true → le b c = true → le a c = true)
    (total : ∀ a b, (le a b || le b a) = true) {key : Row → Key} {rows : List Row}
    (hkeys : (rows.map key).Nodup) :
    (rows.mergeSort le).Pairwise fun a b => le a b = true ∧ key a ≠ key b := by
  have hdistinct : (rows.mergeSort le).Pairwise fun a b => key a ≠ key b :=
    List.pairwise_map.mp (((List.mergeSort_perm rows le).map key).nodup_iff.mpr hkeys)
  exact (List.pairwise_mergeSort trans total rows).and hdistinct

/-- **Rows that are in strict order** are what sorting makes of them. -/
theorem mergeSort_eq_of_pairwise {le : Row → Row → Bool}
    (trans : ∀ a b c, le a b = true → le b c = true → le a c = true)
    (total : ∀ a b, (le a b || le b a) = true) {rows sorted : List Row} (hperm : sorted.Perm rows)
    (hstrict : sorted.Pairwise fun a b => le b a = false) : rows.mergeSort le = sorted := by
  have hsorted : sorted.Pairwise fun a b => le a b = true :=
    hstrict.imp fun {a b} h => by simpa [h] using total a b
  have hsame : ∀ a ∈ sorted, ∀ b ∈ sorted, le a b = true → le b a = true → a = b := by
    have hboth : sorted.Pairwise fun a b => le a b = true → le b a = true → a = b :=
      hstrict.imp fun h _ h' => absurd h' (by simp [h])
    exact hboth.forall_of_forall_of_flip (fun _ _ _ _ => rfl)
      (hboth.imp fun h hba hab => (h hab hba).symm)
  have hperm' : (rows.mergeSort le).Perm sorted := (List.mergeSort_perm rows le).trans hperm.symm
  exact hperm'.eq_of_pairwise (fun a b ha hb => hsame a (hperm'.mem_iff.mp ha) b hb)
    (List.pairwise_mergeSort trans total rows) hsorted

/-- **A strict order leaves one list** with some rows. -/
theorem eq_of_mem_iff {lt : Row → Row → Prop} (asymm : ∀ a b, lt a b → ¬ lt b a)
    {rows rows' : List Row} (h : rows.Pairwise lt) (h' : rows'.Pairwise lt)
    (hmem : ∀ a, a ∈ rows ↔ a ∈ rows') : rows = rows' := by
  have hne {a b : Row} (hlt : lt a b) : a ≠ b := by
    rintro rfl
    exact asymm a a hlt hlt
  have hperm : rows.Perm rows' := (List.perm_ext_iff_of_nodup (h.imp hne) (h'.imp hne)).mpr hmem
  exact hperm.eq_of_pairwise (fun a b _ _ hlt hlt' => absurd hlt' (asymm a b hlt)) h h'

end TagTimeline.Sorting
