import Mathlib.Data.List.Nodup
import TagTimeline.Store.Basic

/-!
# Writing Rows

What a statement makes of the store, in terms of the rows of its table: a refused statement leaves
the store as it is, any other replaces the rows of its table and leaves those of other tables.
Inserting several rows is refused exactly if one of them clashes with a row of the table or with one
before it.

## Main results

* `Store.write_eq` — a statement on a table that exists, by its effect on the rows.
* `Store.rows?_write_other` — a statement does not touch the rows of another table.
* `Statement.insertAll_eq_ok_iff` — when several rows can be inserted, and what rows there are
  then.
* `Store.write_insert` — when one row can be inserted, and what the store is then.
-/

namespace TagTimeline

/-- **Rows whose table is read and exchanged faithfully.** -/
class LawfulStored (Row : Type) [Stored Row] : Prop where
  /-- The table that was put in is found. -/
  table?_withTable (s : Store) (table : Option (Table Row)) :
    Stored.table? (Stored.withTable s table) = table
  /-- Putting in the table that is there changes nothing. -/
  withTable_table? (s : Store) : Stored.withTable s (Stored.table? s : Option (Table Row)) = s

instance : LawfulStored Tag where
  table?_withTable _ _ := rfl
  withTable_table? _ := rfl

instance : LawfulStored Revision where
  table?_withTable _ _ := rfl
  withTable_table? _ := rfl

instance : LawfulStored Activity where
  table?_withTable _ _ := rfl
  withTable_table? _ := rfl

instance : LawfulStored SiteSettings where
  table?_withTable _ _ := rfl
  withTable_table? _ := rfl

/-- **Rows of different tables**: exchanging the table of the one leaves that of the other. -/
class StoredApart (Row Other : Type) [Stored Row] [Stored Other] : Prop where
  /-- The other table is the one that was there. -/
  table?_withTable_other (s : Store) (table : Option (Table Row)) :
    (Stored.table? (Stored.withTable s table) : Option (Table Other)) = Stored.table? s

instance : StoredApart Tag Revision where
  table?_withTable_other _ _ := rfl

instance : StoredApart Tag SiteSettings where
  table?_withTable_other _ _ := rfl

instance : StoredApart Tag Activity where
  table?_withTable_other _ _ := rfl

instance : StoredApart SiteSettings Tag where
  table?_withTable_other _ _ := rfl

instance : StoredApart SiteSettings Revision where
  table?_withTable_other _ _ := rfl

instance : StoredApart SiteSettings Activity where
  table?_withTable_other _ _ := rfl

instance : StoredApart Revision Tag where
  table?_withTable_other _ _ := rfl

instance : StoredApart Revision SiteSettings where
  table?_withTable_other _ _ := rfl

instance : StoredApart Revision Activity where
  table?_withTable_other _ _ := rfl

instance : StoredApart Activity Tag where
  table?_withTable_other _ _ := rfl

instance : StoredApart Activity Revision where
  table?_withTable_other _ _ := rfl

instance : StoredApart Activity SiteSettings where
  table?_withTable_other _ _ := rfl

/-- **Whether a table is another than that of some rows**: exchanging its rows leaves them. -/
def TableName.IsApart (Other : Type) [Stored Other] : TableName → Prop
  | tag => StoredApart Tag Other
  | revision => StoredApart Revision Other
  | activity => StoredApart Activity Other
  | siteSettings => StoredApart SiteSettings Other

/-- **Rows of a table of their own**: every table of another name is another one. -/
class StoredAlone (Row : Type) [Stored Row] : Prop where
  /-- Tables of other names are other tables. -/
  isApart (t : TableName) (h : t ≠ Stored.tableName Row) : t.IsApart Row

instance : StoredAlone Tag where
  isApart
    | .tag, h => absurd rfl h
    | .revision, _ => inferInstanceAs (StoredApart Revision Tag)
    | .activity, _ => inferInstanceAs (StoredApart Activity Tag)
    | .siteSettings, _ => inferInstanceAs (StoredApart SiteSettings Tag)

instance : StoredAlone Revision where
  isApart
    | .tag, _ => inferInstanceAs (StoredApart Tag Revision)
    | .revision, h => absurd rfl h
    | .activity, _ => inferInstanceAs (StoredApart Activity Revision)
    | .siteSettings, _ => inferInstanceAs (StoredApart SiteSettings Revision)

instance : StoredAlone Activity where
  isApart
    | .tag, _ => inferInstanceAs (StoredApart Tag Activity)
    | .revision, _ => inferInstanceAs (StoredApart Revision Activity)
    | .activity, h => absurd rfl h
    | .siteSettings, _ => inferInstanceAs (StoredApart SiteSettings Activity)

instance : StoredAlone SiteSettings where
  isApart
    | .tag, _ => inferInstanceAs (StoredApart Tag SiteSettings)
    | .revision, _ => inferInstanceAs (StoredApart Revision SiteSettings)
    | .activity, _ => inferInstanceAs (StoredApart Activity SiteSettings)
    | .siteSettings, h => absurd rfl h

namespace Store

variable {Row Other α : Type} [Stored Row] [Stored Other]

/-- The store with the rows of a table exchanged; the same store if there is no table. -/
def withRows (s : Store) (rows : List Row) : Store :=
  Stored.withTable s ((s.table? Row).map fun table => { table with rows := rows })

/-- The rows that were put in are found. -/
theorem rows?_withRows [LawfulStored Row] {s : Store} {rows : List Row}
    (h : s.rows? Row = some rows) (rows' : List Row) :
    (s.withRows rows').rows? Row = some rows' := by
  obtain ⟨table, htable, -⟩ := Option.map_eq_some_iff.mp h
  rw [rows?, table?, withRows, LawfulStored.table?_withTable, htable]
  rfl

/-- Putting in the rows that are there changes nothing. -/
theorem withRows_self [LawfulStored Row] {s : Store} {rows : List Row}
    (h : s.rows? Row = some rows) : s.withRows rows = s := by
  obtain ⟨table, htable, rfl⟩ := Option.map_eq_some_iff.mp h
  rw [withRows, htable]
  exact (congrArg (Stored.withTable s) htable.symm).trans (LawfulStored.withTable_table? s)

/-- Exchanging rows leaves the rows of another table. -/
theorem rows?_withRows_other [StoredApart Row Other] (s : Store) (rows : List Row) :
    (s.withRows rows).rows? Other = s.rows? Other :=
  congrArg (Option.map Table.rows) (StoredApart.table?_withTable_other s _)

/-- **A statement leaves the rows of another table**, refused or not. -/
theorem rows?_write_other [StoredApart Row Other] (s : Store) (context : String)
    (statement : Statement Row α) :
    (s.write context statement).2.rows? Other = s.rows? Other := by
  rw [write]
  cases s.table? Row with
  | none => rfl
  | some table =>
      cases hstatement : statement table.rows with
      | error failure => simp only [hstatement]
      | ok result =>
          simp only [hstatement]
          exact congrArg (Option.map Table.rows) (StoredApart.table?_withTable_other s _)

/-- **A statement on a table that exists** is refused and leaves the store as it is, or replaces
the rows of the table. -/
theorem write_eq {s : Store} {rows : List Row} (h : s.rows? Row = some rows) (context : String)
    (statement : Statement Row α) :
    s.write context statement =
      match statement rows with
      | .error failure => (.error (failed context failure), s)
      | .ok (answer, rows') => (.ok answer, s.withRows rows') := by
  obtain ⟨table, htable, rfl⟩ := Option.map_eq_some_iff.mp h
  cases hstatement : statement table.rows with
  | error failure => simp only [write, htable, hstatement]
  | ok result => simp only [write, withRows, htable, hstatement, Option.map_some]

/-- A statement on a table that does not exist fails and leaves the store as it is. -/
theorem write_of_missing {s : Store} (h : s.rows? Row = none) (context : String)
    (statement : Statement Row α) :
    s.write context statement = (.error (missing Row context), s) := by
  rw [write, Option.map_eq_none_iff.mp h]

/-- **The rows behind a statement** are those before it, or those that it makes of them. -/
theorem exists_of_rows?_write [LawfulStored Row] {s : Store} {context : String}
    {statement : Statement Row α} {rows' : List Row}
    (h : (s.write context statement).2.rows? Row = some rows') :
    ∃ rows, s.rows? Row = some rows ∧
      (rows' = rows ∨ ∃ answer, statement rows = .ok (answer, rows')) := by
  cases hrows : s.rows? Row with
  | none =>
      rw [write_of_missing hrows, hrows] at h
      cases h
  | some rows =>
      rw [write_eq hrows] at h
      refine ⟨rows, rfl, ?_⟩
      cases hstatement : statement rows with
      | error failure =>
          rw [hstatement] at h
          exact .inl (Option.some.inj (h.symm.trans hrows))
      | ok result =>
          rw [hstatement] at h
          have hresult := (rows?_withRows hrows result.2).symm.trans h
          exact .inr ⟨result.1, by rw [← Option.some.inj hresult]⟩

/-- A statement leaves its table where it is, refused or not. -/
theorem exists_rows?_write [LawfulStored Row] {s : Store} {rows : List Row}
    (h : s.rows? Row = some rows) (context : String) (statement : Statement Row α) :
    ∃ rows', (s.write context statement).2.rows? Row = some rows' := by
  rw [write_eq h]
  cases statement rows with
  | error failure => exact ⟨rows, h⟩
  | ok result => exact ⟨result.2, rows?_withRows h result.2⟩

/-- A statement that changes rows always succeeds. -/
theorem write_update {s : Store} {rows : List Row} (h : s.rows? Row = some rows) (context : String)
    (selected : Row → Bool) (change : Row → Row) :
    s.write context (Statement.update selected change) =
      (.ok (), s.withRows (rows.map fun row => if selected row then change row else row)) := by
  rw [write_eq h]
  rfl

end Store

namespace Statement

variable {Row : Type} {clash? : Row → Row → Option StatementFailure}

/-- **A row can be inserted** exactly if it clashes with none, and is then the last. -/
theorem insert_eq_ok_iff {row answer : Row} {rows rows' : List Row} :
    insert clash? row rows = .ok (answer, rows') ↔
      (∀ old ∈ rows, clash? row old = none) ∧ answer = row ∧ rows' = rows ++ [row] := by
  rw [insert]
  cases hclash : rows.findSome? (clash? row) with
  | none =>
      rw [List.findSome?_eq_none_iff] at hclash
      simp only [Except.ok.injEq, Prod.mk.injEq]
      exact ⟨fun ⟨h₁, h₂⟩ => ⟨hclash, h₁.symm, h₂.symm⟩, fun ⟨_, h₁, h₂⟩ => ⟨h₁.symm, h₂.symm⟩⟩
  | some failure =>
      obtain ⟨old, hold, hfailure⟩ := List.exists_of_findSome?_eq_some hclash
      simp only [reduceCtorEq, false_iff, not_and]
      exact fun hnone => absurd (hnone old hold) (by simp [hfailure])

/-- **Several rows can be inserted** exactly if none clashes with a row of the table or with one
that is inserted before it, and they are then the last. -/
theorem insertAll_eq_ok_iff {new rows rows' : List Row} :
    insertAll clash? new rows = .ok ((), rows') ↔
      ((∀ row ∈ new, ∀ old ∈ rows, clash? row old = none) ∧
        new.Pairwise fun old row => clash? row old = none) ∧ rows' = rows ++ new := by
  induction new generalizing rows with
  | nil => simp [insertAll, eq_comm]
  | cons row more ih =>
      rw [insertAll]
      cases hinsert : insert clash? row rows with
      | error failure =>
          simp only [reduceCtorEq, false_iff, not_and, and_imp]
          intro hrows _ _
          have := insert_eq_ok_iff.mpr ⟨hrows row List.mem_cons_self, rfl, rfl⟩
          simp [hinsert] at this
      | ok result =>
          obtain ⟨hrow, -, hresult⟩ := insert_eq_ok_iff.mp hinsert
          rw [ih, hresult, List.pairwise_cons]
          simp only [List.mem_append, List.mem_cons, List.not_mem_nil, or_false, List.append_assoc,
            List.cons_append, List.nil_append]
          constructor
          · rintro ⟨⟨hmore, hpair⟩, rfl⟩
            refine ⟨⟨fun new hnew old hold => ?_, fun new hnew => hmore new hnew row (.inr rfl),
              hpair⟩, rfl⟩
            rcases hnew with rfl | hnew
            · exact hrow old hold
            · exact hmore new hnew old (.inl hold)
          · rintro ⟨⟨hnew, hfirst, hpair⟩, rfl⟩
            refine ⟨⟨fun new hmore old hold => ?_, hpair⟩, rfl⟩
            rcases hold with hold | rfl
            · exact hnew new (.inr hmore) old hold
            · exact hfirst new hmore

/-- **What the insertion of several rows fails of** is what one of them clashes in with a row of the
table, or with one that is inserted before it. -/
theorem insertAll_error {P : StatementFailure → Prop} {new rows : List Row}
    {failure : StatementFailure} (h : insertAll clash? new rows = .error failure)
    (hrows : ∀ row ∈ new, ∀ old ∈ rows, ∀ f, clash? row old = some f → P f)
    (hnew : new.Pairwise fun old row => ∀ f, clash? row old = some f → P f) : P failure := by
  induction new generalizing rows with
  | nil => cases h
  | cons row more ih =>
      rw [List.pairwise_cons] at hnew
      rw [insertAll] at h
      cases hinsert : insert clash? row rows with
      | error failure' =>
          rw [hinsert] at h
          obtain rfl : failure' = failure := Except.error.inj h
          rw [insert] at hinsert
          cases hclash : rows.findSome? (clash? row) with
          | none => simp [hclash] at hinsert
          | some found =>
              rw [hclash] at hinsert
              obtain rfl : found = failure' := Except.error.inj hinsert
              obtain ⟨old, hold, hfound⟩ := List.exists_of_findSome?_eq_some hclash
              exact hrows row List.mem_cons_self old hold found hfound
      | ok result =>
          obtain ⟨-, -, hresult⟩ := insert_eq_ok_iff.mp hinsert
          rw [hinsert] at h
          refine ih h (fun tag htag old hold => ?_) hnew.2
          rw [hresult, List.mem_append, List.mem_singleton] at hold
          rcases hold with hold | rfl
          · exact hrows tag (List.mem_cons_of_mem _ htag) old hold
          · exact hnew.1 tag htag

end Statement

namespace Store

variable {Row : Type} [Stored Row] {s : Store} {rows : List Row}

/-- **A row is inserted** exactly if it clashes with none, and is then the last of its table; if it
is refused nothing changes. -/
theorem write_insert (h : s.rows? Row = some rows) (context : String)
    (clash? : Row → Row → Option StatementFailure) (row : Row) :
    ((∀ old ∈ rows, clash? row old = none) ∧
      s.write context (Statement.insert clash? row) = (.ok row, s.withRows (rows ++ [row]))) ∨
    ((∃ old ∈ rows, clash? row old ≠ none) ∧
      ∃ failure, s.write context (Statement.insert clash? row) =
        (.error (failed context failure), s)) := by
  rw [write_eq h]
  cases hinsert : Statement.insert clash? row rows with
  | ok result =>
      obtain ⟨answer, rows'⟩ := result
      obtain ⟨hfree, rfl, rfl⟩ := Statement.insert_eq_ok_iff.mp hinsert
      exact .inl ⟨hfree, rfl⟩
  | error failure =>
      refine .inr ⟨?_, failure, rfl⟩
      by_contra hfree
      push Not at hfree
      have hok := Statement.insert_eq_ok_iff.mpr ⟨hfree, rfl, rfl⟩
      rw [hinsert] at hok
      cases hok

/-- **That the rows of a table all have a property**, if there is the table. -/
def AllRows (s : Store) (P : Row → Prop) : Prop :=
  ∀ rows, s.rows? Row = some rows → ∀ row ∈ rows, P row

namespace AllRows

variable {P : Row → Prop}

/-- An empty table has no row without a property. -/
theorem of_empty (h : s.rows? Row = some []) : s.AllRows P := by
  intro rows hrows
  obtain rfl : [] = rows := Option.some.inj (h.symm.trans hrows)
  exact fun _ hrow => absurd hrow List.not_mem_nil

variable [LawfulStored Row]

/-- Rows that all have a property still do behind the insertion of one that has it. -/
theorem insert (h : s.AllRows P) (row : Row) (hrow : P row) (context : String)
    (clash? : Row → Row → Option StatementFailure) :
    (s.write context (Statement.insert clash? row)).2.AllRows P := by
  intro rows' hrows'
  obtain ⟨rows, hrows, rfl | ⟨answer, hinsert⟩⟩ := exists_of_rows?_write hrows'
  · exact h rows' hrows
  · obtain ⟨-, -, rfl⟩ := Statement.insert_eq_ok_iff.mp hinsert
    intro old hold
    rcases List.mem_append.mp hold with hold | hold
    · exact h rows hrows old hold
    · rw [List.mem_singleton.mp hold]
      exact hrow

/-- Rows that all have a property still do behind a change that keeps it. -/
theorem update (h : s.AllRows P) (change : Row → Row) (hchange : ∀ row, P row → P (change row))
    (context : String) (selected : Row → Bool) :
    (s.write context (Statement.update selected change)).2.AllRows P := by
  intro rows' hrows'
  obtain ⟨rows, hrows, rfl | ⟨answer, hupdate⟩⟩ := exists_of_rows?_write hrows'
  · exact h rows' hrows
  · obtain rfl := (Prod.mk.inj (Except.ok.inj hupdate)).2
    intro new hnew
    obtain ⟨row, hrow, rfl⟩ := List.mem_map.mp hnew
    split
    · exact hchange row (h rows hrows row hrow)
    · exact h rows hrows row hrow

end AllRows

end Store

end TagTimeline
