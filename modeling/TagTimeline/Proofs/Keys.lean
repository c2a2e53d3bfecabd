import Mathlib.Data.List.Nodup

/-!
# Rows with Keys

What can be said of the rows of a table whose keys are distinct. What is chosen by a key is one row
or none, so it does not matter which row is taken first, or whether rows are found or filtered; and
what is done to the rows with a key is done to one row at most.

## Main results

* `Keyed.filter_key`, `Keyed.find?_and_key` — what is chosen by a key.
* `Keyed.find?_key_eq_some_iff` — which row is found by a key.
* `Keyed.exists_split`, `Keyed.map_ite_key` — where the row with a key is, and what is changed by a
  key.
-/

namespace TagTimeline.Keyed

variable {Row Key : Type} {key : Row → Key} {rows : List Row}

/-- **The place of a row** among the others, none of which has its key. -/
theorem exists_split (hkeys : (rows.map key).Nodup) {row : Row} (hrow : row ∈ rows) :
    ∃ front back, rows = front ++ row :: back ∧ ∀ other ∈ front ++ back, key other ≠ key row := by
  obtain ⟨front, back, rfl⟩ := List.append_of_mem hrow
  rw [List.map_append, List.map_cons, List.nodup_middle, List.nodup_cons] at hkeys
  refine ⟨front, back, rfl, fun other hother hsame => hkeys.1 ?_⟩
  rw [← List.map_append, ← hsame]
  exact List.mem_map_of_mem hother

variable [DecidableEq Key]

/-- **Rows that are chosen by a key** are the one that is found, if there is one. -/
theorem filter_key (hkeys : (rows.map key).Nodup) (k : Key) :
    (rows.filter fun row => key row == k) = (rows.find? fun row => key row == k).toList := by
  have hnodup : ((rows.filter fun row => key row == k).map key).Nodup :=
    hkeys.sublist (List.filter_sublist.map key)
  have hsame : ∀ row ∈ rows.filter fun row => key row == k, key row = k :=
    fun row hrow => beq_iff_eq.mp (List.mem_filter.mp hrow).2
  rw [← List.head?_filter]
  match hfilter : rows.filter fun row => key row == k with
  | [] => rfl
  | [row] => rfl
  | row :: other :: more =>
      -- two rows would have the same key
      rw [hfilter] at hnodup hsame
      refine absurd ?_ (List.nodup_cons.mp hnodup).1
      rw [hsame row List.mem_cons_self, ← hsame other (.tail _ List.mem_cons_self)]
      exact List.mem_cons_self

/-- The row that is found by a key is the one that has it. -/
theorem find?_key_eq_some_iff (hkeys : (rows.map key).Nodup) {k : Key} {row : Row} :
    (rows.find? fun row => key row == k) = some row ↔ row ∈ rows ∧ key row = k := by
  rw [← Option.toList_eq_singleton_iff, ← filter_key hkeys]
  constructor
  · intro hfilter
    obtain ⟨hrow, hkey⟩ := List.mem_filter.mp (hfilter ▸ List.mem_singleton_self row)
    exact ⟨hrow, beq_iff_eq.mp hkey⟩
  · rintro ⟨hrow, rfl⟩
    have hmem : row ∈ rows.filter fun other => key other == key row :=
      List.mem_filter.mpr ⟨hrow, beq_self_eq_true _⟩
    rw [filter_key hkeys] at hmem ⊢
    rw [Option.mem_toList.mp hmem]
    rfl

/-- A row that is found by a condition and a key is the row with the key, if it satisfies the
condition. -/
theorem find?_and_key (hkeys : (rows.map key).Nodup) (keep : Row → Bool) (k : Key) :
    (rows.find? fun row => keep row && key row == k) =
      (rows.find? fun row => key row == k).filter keep := by
  rw [← List.head?_filter, ← List.filter_filter, filter_key hkeys, ← Option.toList_filter,
    Option.head?_toList]

/-- Rows that are chosen by a condition and a key are the one that is found, if there is one. -/
theorem filter_and_key (hkeys : (rows.map key).Nodup) (keep : Row → Bool) (k : Key) :
    (rows.filter fun row => keep row && key row == k) =
      (rows.find? fun row => keep row && key row == k).toList := by
  rw [find?_and_key hkeys, Option.toList_filter, ← filter_key hkeys, List.filter_filter]

/-- Where no row has a key, nothing happens to the rows with it. -/
theorem map_ite_key_eq_self {k : Key} (hother : ∀ row ∈ rows, key row ≠ k) (change : Row → Row) :
    (rows.map fun row => if key row = k then change row else row) = rows :=
  (List.map_congr_left fun row hrow => if_neg (hother row hrow)).trans (List.map_id rows)

/-- **What happens to the row with a key** leaves all others as they are. -/
theorem map_ite_key_split {front back : List Row} {row : Row}
    (hother : ∀ other ∈ front ++ back, key other ≠ key row) (change : Row → Row) :
    ((front ++ row :: back).map fun other => if key other = key row then change other else other) =
      front ++ change row :: back := by
  have hfront : ∀ other ∈ front, key other ≠ key row := fun other h =>
    hother other (List.mem_append_left back h)
  have hback : ∀ other ∈ back, key other ≠ key row := fun other h =>
    hother other (List.mem_append_right front h)
  rw [List.map_append, List.map_cons, if_pos rfl, map_ite_key_eq_self hfront,
    map_ite_key_eq_self hback]

/-- **What happens to the rows with a key** happens to one row at most if keys are distinct. -/
theorem map_ite_key (h : (rows.map key).Nodup) (k : Key) (change : Row → Row) :
    (rows.map fun row => if key row = k then change row else row) = rows ∨
    ∃ front row back, rows = front ++ row :: back ∧ key row = k ∧
      (rows.map fun row => if key row = k then change row else row) =
        front ++ change row :: back := by
  by_cases hk : k ∈ rows.map key
  · obtain ⟨row, hrow, rfl⟩ := List.mem_map.mp hk
    obtain ⟨front, back, rfl, hother⟩ := exists_split h hrow
    exact .inr ⟨front, row, back, rfl, rfl, map_ite_key_split hother change⟩
  · refine .inl (map_ite_key_eq_self (fun row hrow hsame => hk ?_) change)
    exact List.mem_map.mpr ⟨row, hrow, hsame⟩

end TagTimeline.Keyed
