import TagTimeline.Proofs.Store.Schema

/-!
# Migrating Up and Down

What migrations make of the store, in any order, by any number, and with calls of clients in
between. The record of what is applied, the tables with their indexes and the rows stay in step:
the applied migrations are always the first ones of the list, exactly their tables exist, and a step
leaves the tables that stay. That is why no step fails: the names of the indexes that a migration
makes are free, as those of a table go with the table.

## Main results

* `Store.IsMigrated` — the state that every store is in.
* `Store.IsMigrated.migrateUp`, `Store.IsMigrated.migrateDown` — what a step does.
* `Store.inStep_afterSteps` — schema, record and rows behind any steps.
-/

namespace TagTimeline

namespace TableName

/-- Every table has one place in the order of migrations. -/
theorem nodup_all : all.Nodup := by decide

/-- Every table has a place in the order of migrations. -/
theorem mem_all (t : TableName) : t ∈ all := by cases t <;> decide

/-- An index belongs to one table. -/
theorem eq_of_mem_indexes {t t' : TableName} {index : String} (h : index ∈ t.indexes)
    (h' : index ∈ t'.indexes) : t = t' := by
  have hapart : ∀ t t' : TableName, t ≠ t' → ∀ index ∈ t.indexes, index ∉ t'.indexes := by
    intro t t'
    cases t <;> cases t' <;> decide
  by_contra hne
  exact hapart t t' hne index h h'

/-- A table has an index of a name once. -/
theorem nodup_indexes (t : TableName) : t.indexes.Nodup := by cases t <;> decide

/-- What comes next has not come before. -/
theorem not_mem_of_next {t : TableName} {before : List TableName}
    (hnext : before ++ [t] <+: all) : t ∉ before := by
  have hnodup := nodup_all.sublist hnext.sublist
  rw [List.nodup_append] at hnodup
  exact fun ht => hnodup.2.2 t ht t List.mem_cons_self rfl

end TableName

namespace Store

/-! ### Statements on the schema -/

section

variable (s : Store) (t t' : TableName)

/-- An empty table is made in its place. -/
theorem tableAt_withEmptyTable :
    (s.withEmptyTable t).tableAt t' = if t' = t then some .empty else s.tableAt t' := by
  cases t <;> cases t' <;> rfl

/-- A table is dropped from its place. -/
theorem tableAt_withoutTable :
    (s.withoutTable t).tableAt t' = if t' = t then none else s.tableAt t' := by
  cases t <;> cases t' <;> rfl

/-- An index is made on its table. -/
theorem tableAt_withIndex (index : String) :
    (s.withIndex index t).tableAt t' =
      if t' = t then (s.tableAt t').map (addIndex index) else s.tableAt t' := by
  cases t <;> cases t' <;> rfl

/-- Making a table is not recorded. -/
theorem applied_withEmptyTable : (s.withEmptyTable t).applied = s.applied := by cases t <;> rfl

/-- Dropping a table is not recorded. -/
theorem applied_withoutTable : (s.withoutTable t).applied = s.applied := by cases t <;> rfl

/-- Making an index is not recorded. -/
theorem applied_withIndex (index : String) : (s.withIndex index t).applied = s.applied := by
  cases t <;> rfl

end

/-- **Indexes are made one after the other** on a table that exists, as long as their names are
free. -/
theorem runSchemaAll_createIndex (context : String) {t : TableName} {names : List String}
    {s : Store} {table : Table t.Row} (htable : s.tableAt t = some table) (hnodup : names.Nodup)
    (hfree : ∀ index ∈ names, ∀ t', index ∉ s.indexesOf t') :
    ∃ s', runSchemaAll context (names.map (.createIndex t)) s = (.ok (), s') ∧
      s'.applied = s.applied ∧
      s'.tableAt t = some { table with indexes := table.indexes ++ names } ∧
      ∀ t', t' ≠ t → s'.tableAt t' = s.tableAt t' := by
  induction names generalizing s table with
  | nil =>
      refine ⟨s, rfl, rfl, ?_, fun t' _ => rfl⟩
      rw [htable, List.append_nil]
  | cons index more ih =>
      obtain ⟨hindex, hmore⟩ := List.nodup_cons.mp hnodup
      have hunused : (TableName.all.any fun t' => (s.indexesOf t').contains index) = false := by
        rw [List.any_eq_false]
        intro t' _
        rw [List.contains_iff_mem]
        exact hfree index List.mem_cons_self t'
      have hhas : s.hasTable t = true := by rw [hasTable_eq, htable]; rfl
      have hstatement : s.runSchema (.createIndex t index) = .ok (s.withIndex index t) := by
        rw [runSchema, hunused, hhas]
        rfl
      have htable' : (s.withIndex index t).tableAt t = some (addIndex index table) := by
        rw [tableAt_withIndex, if_pos rfl, htable]
        rfl
      -- the only new name is the one that was just taken
      have hfree' : ∀ name ∈ more, ∀ t', name ∉ (s.withIndex index t).indexesOf t' := by
        intro name hname t' hused
        rw [indexesOf_eq] at hused
        by_cases ht' : t' = t
        · subst ht'
          rw [htable', Option.map_some, Option.getD_some, addIndex] at hused
          rcases List.mem_append.mp hused with hold | hnew
          · refine hfree name (List.mem_cons_of_mem _ hname) t' ?_
            rw [indexesOf_eq, htable]
            exact hold
          · rw [List.mem_singleton.mp hnew] at hname
            exact hindex hname
        · rw [tableAt_withIndex, if_neg ht', ← indexesOf_eq] at hused
          exact hfree name (List.mem_cons_of_mem _ hname) t' hused
      obtain ⟨s', hrun, happlied, hat, hothers⟩ := ih htable' hmore hfree'
      refine ⟨s', ?_, ?_, ?_, fun t' ht' => ?_⟩
      · rw [List.map_cons, runSchemaAll, hstatement]
        exact hrun
      · rw [happlied, applied_withIndex]
      · rw [hat, addIndex, List.append_assoc, List.singleton_append]
      · rw [hothers t' ht', tableAt_withIndex, if_neg ht']

/-! ### Single migrations -/

/-- The rows of a table by its name; none if it does not exist. -/
def rowsAt (s : Store) (t : TableName) : List t.Row := ((s.tableAt t).map Table.rows).getD []

/-- **The state that every store is in**: the first migrations of the list are applied, and exactly
their tables exist, each with its indexes. -/
structure IsMigrated (s : Store) : Prop where
  applied : s.applied <+: TableName.all
  tables : ∀ t, s.hasTable t = true ↔ t ∈ s.applied
  indexes : ∀ t ∈ s.applied, s.indexesOf t = t.indexes

/-- **That a migration is the next one**: those before it are applied and have their tables and
indexes. It has no index of its own yet, but its table may exist. -/
structure IsNext (s : Store) (t : TableName) : Prop where
  applied : s.applied ++ [t] <+: TableName.all
  tables : ∀ t', t' ≠ t → (s.hasTable t' = true ↔ t' ∈ s.applied)
  indexes : ∀ t' ∈ s.applied, s.indexesOf t' = t'.indexes
  unindexed : s.indexesOf t = []

/-- What has an index is there. -/
theorem hasTable_of_mem_indexesOf {s : Store} {t : TableName} {index : String}
    (h : index ∈ s.indexesOf t) : s.hasTable t = true := by
  rw [hasTable_eq]
  rw [indexesOf_eq] at h
  cases htable : s.tableAt t with
  | some table => rfl
  | none => simp [htable] at h

namespace IsNext

variable {s : Store} {t : TableName}

/-- The table of the next migration is made, unless it is there. -/
theorem runSchema_createTable (h : s.IsNext t) :
    ∃ s', s.runSchema (.createTable t) = .ok s' ∧ s'.applied = s.applied ∧
      s'.tableAt t = some ⟨s.rowsAt t, []⟩ ∧ ∀ t', t' ≠ t → s'.tableAt t' = s.tableAt t' := by
  have hunindexed := h.unindexed
  rw [indexesOf_eq] at hunindexed
  cases htable : s.tableAt t with
  | none =>
      refine ⟨s.withEmptyTable t, ?_, applied_withEmptyTable s t, ?_, fun t' ht' => ?_⟩
      · rw [runSchema, hasTable_eq, htable]
        rfl
      · rw [tableAt_withEmptyTable, if_pos rfl, rowsAt, htable]
        rfl
      · rw [tableAt_withEmptyTable, if_neg ht']
  | some table =>
      refine ⟨s, ?_, rfl, ?_, fun _ _ => rfl⟩
      · rw [runSchema, hasTable_eq, htable]
        rfl
      · rw [htable, Option.map_some, Option.getD_some] at hunindexed
        rw [htable, rowsAt, htable, ← hunindexed]
        rfl

/-- The names of the indexes of the next migration are free. -/
theorem not_mem_indexesOf (h : s.IsNext t) {index : String} (hindex : index ∈ t.indexes)
    (t' : TableName) : index ∉ s.indexesOf t' := by
  intro hused
  by_cases ht' : t' = t
  · rw [ht', h.unindexed] at hused
    exact List.not_mem_nil hused
  · have happlied := (h.tables t' ht').mp (hasTable_of_mem_indexesOf hused)
    rw [h.indexes t' happlied] at hused
    exact ht' (TableName.eq_of_mem_indexes hused hindex)

/-- **The table of the next migration is made** with the first of its indexes, or as many of them as
there are. -/
theorem runSchemaAll (h : s.IsNext t) {names : List String} (hnames : names <+: t.indexes) :
    ∃ s', Store.runSchemaAll migrateContext (.createTable t :: names.map (.createIndex t)) s =
        (.ok (), s') ∧
      s'.applied = s.applied ∧ s'.tableAt t = some ⟨s.rowsAt t, names⟩ ∧
      ∀ t', t' ≠ t → s'.tableAt t' = s.tableAt t' := by
  obtain ⟨s₁, hcreate, happlied₁, htable₁, hothers₁⟩ := h.runSchema_createTable
  have hfree : ∀ index ∈ names, ∀ t', index ∉ s₁.indexesOf t' := by
    intro index hindex t' hused
    by_cases ht' : t' = t
    · rw [ht', indexesOf_eq, htable₁] at hused
      exact List.not_mem_nil hused
    · rw [indexesOf_eq, hothers₁ t' ht', ← indexesOf_eq] at hused
      exact h.not_mem_indexesOf (hnames.subset hindex) t' hused
  obtain ⟨s', hrun, happlied, htable, hothers⟩ :=
    runSchemaAll_createIndex migrateContext htable₁ (t.nodup_indexes.sublist hnames.sublist) hfree
  refine ⟨s', ?_, happlied.trans happlied₁, htable, fun t' ht' => ?_⟩
  · rw [Store.runSchemaAll, hcreate]
    exact hrun
  · rw [hothers t' ht', hothers₁ t' ht']

/-- **Applying the next migration** makes its table, unless it is there, with its indexes. -/
theorem applyMigration (h : s.IsNext t) :
    ∃ s', s.applyMigration t = (.ok (), s') ∧ s'.IsMigrated ∧ s'.applied = s.applied ++ [t] ∧
      s'.tableAt t = some ⟨s.rowsAt t, t.indexes⟩ ∧
      ∀ t', t' ≠ t → s'.tableAt t' = s.tableAt t' := by
  obtain ⟨s₁, hrun, happlied, htable, hothers⟩ := h.runSchemaAll List.prefix_rfl
  have happly : s.applyMigration t = (.ok (), { s₁ with applied := s₁.applied ++ [t] }) := by
    rw [Store.applyMigration, TableName.upStatements, hrun]
  have htableAt : ∀ t', ({ s₁ with applied := s₁.applied ++ [t] } : Store).tableAt t' =
      s₁.tableAt t' := fun t' => by cases t' <;> rfl
  refine ⟨_, happly, ⟨?_, fun t' => ?_, fun t' ht' => ?_⟩, congrArg (· ++ [t]) happlied,
    (htableAt t).trans htable, fun t' ht' => (htableAt t').trans (hothers t' ht')⟩
  · rw [happlied]
    exact h.applied
  · rw [hasTable_eq, htableAt, happlied, List.mem_append, List.mem_singleton]
    by_cases ht' : t' = t
    · subst ht'
      simp [htable]
    · rw [hothers t' ht', ← hasTable_eq, h.tables t' ht']
      simp [ht']
  · rw [indexesOf_eq, htableAt]
    by_cases ht : t' = t
    · subst ht
      rw [htable]
      rfl
    · rw [hothers t' ht, ← indexesOf_eq]
      refine h.indexes t' ?_
      rw [happlied, List.mem_append, List.mem_singleton] at ht'
      exact ht'.resolve_right ht

end IsNext

namespace IsMigrated

variable {s : Store}

/-- A store of the same schema is in the same state. -/
theorem of_sameSchema {s' : Store} (h : s.IsMigrated) (hsame : s.SameSchema s') :
    s'.IsMigrated := by
  refine ⟨?_, fun t => ?_, fun t ht => ?_⟩
  · rw [hsame.applied]
    exact h.applied
  · rw [hsame.hasTable, hsame.applied]
    exact h.tables t
  · rw [hsame.indexesOf]
    exact h.indexes t (hsame.applied ▸ ht)

/-- A migration that is not applied has no table. -/
theorem tableAt_of_not_mem (h : s.IsMigrated) {t : TableName} (ht : t ∉ s.applied) :
    s.tableAt t = none := by
  rw [← h.tables, hasTable_eq] at ht
  simpa using ht

/-- Where every table exists, every migration is applied. -/
theorem applied_eq_all (h : s.IsMigrated) (hexist : ∀ t, s.hasTable t = true) :
    s.applied = TableName.all := by
  obtain ⟨rest, hrest⟩ := h.applied
  have hnodup := TableName.nodup_all
  rw [← hrest, List.nodup_append] at hnodup
  -- what is left of the list would be applied already
  have hnil : rest = [] := List.eq_nil_iff_forall_not_mem.mpr fun t ht =>
    hnodup.2.2 t ((h.tables t).mp (hexist t)) t ht rfl
  rw [← hrest, hnil, List.append_nil]

/-- A migration that follows those applied is the next one. -/
theorem isNext (h : s.IsMigrated) {t : TableName} (hnext : s.applied ++ [t] <+: TableName.all) :
    s.IsNext t where
  applied := hnext
  tables t' _ := h.tables t'
  indexes := h.indexes
  unindexed := by
    rw [indexesOf_eq, h.tableAt_of_not_mem (TableName.not_mem_of_next hnext)]
    rfl

/-- **Applying the next migration** makes its table, empty and with its indexes. -/
theorem applyMigration (h : s.IsMigrated) {t : TableName}
    (hnext : s.applied ++ [t] <+: TableName.all) :
    ∃ s', s.applyMigration t = (.ok (), s') ∧ s'.IsMigrated ∧ s'.applied = s.applied ++ [t] ∧
      s'.tableAt t = some ⟨[], t.indexes⟩ ∧ ∀ t', t' ≠ t → s'.tableAt t' = s.tableAt t' := by
  obtain ⟨s', hrun, h', happlied, htable, hothers⟩ := (h.isNext hnext).applyMigration
  have hnone := h.tableAt_of_not_mem (TableName.not_mem_of_next hnext)
  rw [rowsAt, hnone] at htable
  exact ⟨s', hrun, h', happlied, htable, hothers⟩

/-- **Reverting the last migration** drops its table. -/
theorem revertMigration (h : s.IsMigrated) {t : TableName} {kept : List TableName}
    (hlast : s.applied = kept ++ [t]) :
    ∃ s', s.revertMigration t = (.ok (), s') ∧ s'.IsMigrated ∧ s'.applied = kept ∧
      s'.tableAt t = none ∧ ∀ t', t' ≠ t → s'.tableAt t' = s.tableAt t' := by
  have hkept : t ∉ kept := TableName.not_mem_of_next (hlast ▸ h.applied)
  have hhas : s.hasTable t = true := by
    rw [h.tables, hlast]
    exact List.mem_append_right _ List.mem_cons_self
  have herase : (s.withoutTable t).applied.filter (· ≠ t) = kept := by
    rw [applied_withoutTable, hlast, List.filter_append, List.filter_eq_self.mpr]
    · simp
    · intro t' ht'
      simpa using fun heq : t' = t => hkept (heq ▸ ht')
  have hrevert : s.revertMigration t = (.ok (), { s.withoutTable t with applied := kept }) := by
    rw [Store.revertMigration, TableName.downStatements, runSchemaAll, runSchema, hhas]
    simp only [↓reduceIte, runSchemaAll, herase]
  have htableAt : ∀ t', ({ s.withoutTable t with applied := kept } : Store).tableAt t' =
      if t' = t then none else s.tableAt t' := fun t' => by
    rw [← tableAt_withoutTable]
    cases t' <;> rfl
  refine ⟨_, hrevert, ⟨?_, fun t' => ?_, fun t' ht' => ?_⟩, rfl, by rw [htableAt, if_pos rfl],
    fun t' ht' => by rw [htableAt, if_neg ht']⟩
  · have hprefix : kept <+: s.applied := hlast ▸ List.prefix_append kept [t]
    exact hprefix.trans h.applied
  · rw [hasTable_eq, htableAt]
    by_cases ht' : t' = t
    · subst ht'
      simpa using hkept
    · rw [if_neg ht', ← hasTable_eq, h.tables, hlast, List.mem_append, List.mem_singleton]
      simp [ht']
  · have ht : t' ≠ t := fun heq => hkept (heq ▸ ht')
    rw [indexesOf_eq, htableAt, if_neg ht, ← indexesOf_eq]
    refine h.indexes t' ?_
    rw [hlast]
    exact List.mem_append_left _ ht'

/-! ### Runs of migrations -/

/-- **Applying the next migrations** makes their tables, empty and with their indexes. -/
theorem runEach_applyMigration (h : s.IsMigrated) {more : List TableName}
    (hnext : s.applied ++ more <+: TableName.all) :
    ∃ s', runEach Store.applyMigration more s = (.ok (), s') ∧ s'.IsMigrated ∧
      s'.applied = s.applied ++ more ∧ (∀ t ∈ more, s'.tableAt t = some ⟨[], t.indexes⟩) ∧
      ∀ t, t ∉ more → s'.tableAt t = s.tableAt t := by
  induction more generalizing s with
  | nil => exact ⟨s, rfl, h, (List.append_nil _).symm, by simp, fun _ _ => rfl⟩
  | cons t more ih =>
      have hcons : s.applied ++ t :: more = (s.applied ++ [t]) ++ more := by simp
      obtain ⟨s₁, hrun, h₁, happlied, htable, hothers⟩ :=
        h.applyMigration ((List.prefix_append _ more).trans (hcons ▸ hnext))
      obtain ⟨s', hruns, h', happlied', htables, hothers'⟩ :=
        ih h₁ (by rw [happlied, ← hcons]; exact hnext)
      refine ⟨s', ?_, h', ?_, fun t' ht' => ?_, fun t' ht' => ?_⟩
      · rw [runEach, hrun]
        exact hruns
      · rw [happlied', happlied, hcons]
      · by_cases hmore : t' ∈ more
        · exact htables t' hmore
        · obtain rfl : t' = t := (List.mem_cons.mp ht').resolve_right hmore
          rw [hothers' t' hmore, htable]
      · rw [List.mem_cons, not_or] at ht'
        obtain ⟨hne, hmore⟩ := ht'
        rw [hothers' t' hmore, hothers t' hne]

/-- **Reverting the last migrations**, the last first, drops their tables. -/
theorem runEach_revertMigration (h : s.IsMigrated) {kept less : List TableName}
    (hlast : s.applied = kept ++ less.reverse) :
    ∃ s', runEach Store.revertMigration less s = (.ok (), s') ∧ s'.IsMigrated ∧
      s'.applied = kept ∧ (∀ t ∈ less, s'.tableAt t = none) ∧
      ∀ t, t ∉ less → s'.tableAt t = s.tableAt t := by
  induction less generalizing s with
  | nil => exact ⟨s, rfl, h, by simpa using hlast, by simp, fun _ _ => rfl⟩
  | cons t less ih =>
      have hcons : s.applied = (kept ++ less.reverse) ++ [t] := by simpa using hlast
      obtain ⟨s₁, hrun, h₁, happlied, htable, hothers⟩ := h.revertMigration hcons
      obtain ⟨s', hruns, h', happlied', htables, hothers'⟩ := ih h₁ happlied
      refine ⟨s', ?_, h', happlied', fun t' ht' => ?_, fun t' ht' => ?_⟩
      · rw [runEach, hrun]
        exact hruns
      · by_cases hless : t' ∈ less
        · exact htables t' hless
        · obtain rfl : t' = t := (List.mem_cons.mp ht').resolve_right hless
          rw [hothers' t' hless, htable]
      · rw [List.mem_cons, not_or] at ht'
        obtain ⟨hne, hless⟩ := ht'
        rw [hothers' t' hless, hothers t' hne]

/-- What is pending is the rest of the list. -/
theorem pending_eq {rest : List TableName} (hrest : s.applied ++ rest = TableName.all) :
    s.pending = rest := by
  have hnodup := TableName.nodup_all
  rw [← hrest, List.nodup_append] at hnodup
  have hold : s.applied.filter (fun t => !s.applied.contains t) = [] := by
    rw [List.filter_eq_nil_iff]
    intro t ht
    simpa using ht
  have hnew : rest.filter (fun t => !s.applied.contains t) = rest := by
    rw [List.filter_eq_self]
    intro t ht
    simpa using fun happlied => hnodup.2.2 t happlied t ht rfl
  rw [pending, ← hrest, List.filter_append, hold, hnew, List.nil_append]

/-- What can be reverted is what is applied. -/
theorem revertible_eq (h : s.IsMigrated) : s.revertible = s.applied.reverse := by
  obtain ⟨rest, hrest⟩ := h.applied
  have hnodup := TableName.nodup_all
  rw [← hrest, List.nodup_append] at hnodup
  have hold : s.applied.filter (fun t => s.applied.contains t) = s.applied := by
    rw [List.filter_eq_self]
    intro t ht
    simpa using ht
  have hnew : rest.filter (fun t => s.applied.contains t) = [] := by
    rw [List.filter_eq_nil_iff]
    intro t ht
    simpa using fun happlied => hnodup.2.2 t happlied t ht rfl
  rw [revertible, ← hrest, List.filter_append, hold, hnew, List.append_nil]

/-- **Migrating up** works: the next migrations are applied, their tables are empty, and the others
stay. -/
theorem migrateUp (h : s.IsMigrated) (count : Option Nat) :
    ∃ s', s.migrateUp count = (.ok (), s') ∧ s'.IsMigrated ∧
      s'.applied = firstOf (count.map (s.applied.length + ·)) TableName.all ∧
      (∀ t ∈ s.applied, s'.tableAt t = s.tableAt t) ∧
      ∀ t ∈ s'.applied, t ∉ s.applied → s'.tableAt t = some ⟨[], t.indexes⟩ := by
  obtain ⟨rest, hrest⟩ := h.applied
  have hfirst : s.applied ++ firstOf count rest =
      firstOf (count.map (s.applied.length + ·)) TableName.all := by
    cases count with
    | none => exact hrest
    | some n => rw [← hrest, Option.map_some, firstOf, firstOf, List.take_length_add_append]
  have hnext : s.applied ++ firstOf count rest <+: TableName.all := by
    rw [hfirst]
    cases count with
    | none => exact List.prefix_rfl
    | some n => exact List.take_prefix _ _
  obtain ⟨s', hrun, h', happlied, hmade, hkept⟩ := h.runEach_applyMigration hnext
  have hnodup := TableName.nodup_all.sublist hnext.sublist
  rw [List.nodup_append] at hnodup
  refine ⟨s', ?_, h', happlied.trans hfirst, fun t ht => ?_, fun t ht hnew => ?_⟩
  · rw [Store.migrateUp, pending_eq hrest, hrun]
  · exact hkept t fun hmore => hnodup.2.2 t ht t hmore rfl
  · rw [happlied] at ht
    exact hmade t ((List.mem_append.mp ht).resolve_left hnew)

/-- **Migrating down** works: the last migrations are reverted, their tables are gone, the others
stay. -/
theorem migrateDown (h : s.IsMigrated) (count : Option Nat) :
    ∃ s', s.migrateDown count = (.ok (), s') ∧ s'.IsMigrated ∧
      s'.applied = s.applied.take (s.applied.length - count.getD s.applied.length) ∧
      (∀ t ∈ s'.applied, s'.tableAt t = s.tableAt t) ∧
      ∀ t, t ∉ s'.applied → s'.tableAt t = none := by
  have hlast : s.applied = s.applied.take (s.applied.length - count.getD s.applied.length) ++
      (firstOf count s.applied.reverse).reverse := by
    cases count with
    | none => simp [firstOf]
    | some n =>
        rw [firstOf, List.reverse_take, List.reverse_reverse, List.length_reverse, Option.getD_some,
          List.take_append_drop]
  obtain ⟨s', hrun, h', happlied, hdropped, hkept⟩ := h.runEach_revertMigration hlast
  have hnodup := TableName.nodup_all.sublist h.applied.sublist
  rw [hlast, ← happlied, List.nodup_append] at hnodup
  refine ⟨s', ?_, h', happlied, fun t ht => ?_, fun t ht => ?_⟩
  · rw [Store.migrateDown, h.revertible_eq, hrun]
  · exact hkept t fun hless => hnodup.2.2 t ht t (List.mem_reverse.mpr hless) rfl
  · exact h'.tableAt_of_not_mem ht

end IsMigrated

/-! ### Any steps -/

/-- **A step in the life of a store**: a run of migrations up or down, or a call of a client. -/
inductive Step : Type 1 where
  | up (count : Option Nat)
  | down (count : Option Nat)
  | call {α : Type} (call : Call α)

/-- The store behind a step. -/
def Step.behind : Step → Store → Store
  | up count, s => (s.migrateUp count).2
  | down count, s => (s.migrateDown count).2
  | call c, s => (c.run s).2

/-- **The store behind some steps** from an empty database on. -/
def afterSteps (steps : List Step) : Store := steps.foldl (fun s step => step.behind s) empty

/-- Before any migration there is nothing. -/
theorem isMigrated_empty : empty.IsMigrated :=
  ⟨List.nil_prefix, fun t => by cases t <;> decide, fun _ ht => absurd ht List.not_mem_nil⟩

/-- Every step keeps schema and record in step. -/
theorem IsMigrated.behind {s : Store} (h : s.IsMigrated) (step : Step) :
    (step.behind s).IsMigrated := by
  cases step with
  | up count =>
      obtain ⟨s', hrun, h', -⟩ := h.migrateUp count
      rw [Step.behind, hrun]
      exact h'
  | down count =>
      obtain ⟨s', hrun, h', -⟩ := h.migrateDown count
      rw [Step.behind, hrun]
      exact h'
  | call c => exact h.of_sameSchema (c.sameSchema_run s)

/-- Schema and record are in step behind any steps. -/
theorem isMigrated_afterSteps (steps : List Step) : (afterSteps steps).IsMigrated := by
  have hfoldl : ∀ (s : Store), s.IsMigrated →
      (steps.foldl (fun s step => step.behind s) s).IsMigrated := by
    induction steps with
    | nil => exact fun s h => h
    | cons step more ih => exact fun s h => ih (step.behind s) (h.behind step)
  exact hfoldl empty isMigrated_empty

/-- **That schema, record and rows are in step**, now and behind the next migrations. -/
structure InStep (s : Store) : Prop extends IsMigrated s where
  /-- Migrating up does not fail, leaves the tables that exist, and makes empty ones. -/
  up : ∀ count, ∃ s', s.migrateUp count = (.ok (), s') ∧
    s'.applied = firstOf (count.map (s.applied.length + ·)) TableName.all ∧
    (∀ t ∈ s.applied, s'.tableAt t = s.tableAt t) ∧
    ∀ t ∈ s'.applied, t ∉ s.applied → s'.tableAt t = some ⟨[], t.indexes⟩
  /-- Migrating down does not fail, and leaves the tables that it does not drop. -/
  down : ∀ count, ∃ s', s.migrateDown count = (.ok (), s') ∧
    s'.applied = s.applied.take (s.applied.length - count.getD s.applied.length) ∧
    (∀ t ∈ s'.applied, s'.tableAt t = s.tableAt t) ∧ ∀ t, t ∉ s'.applied → s'.tableAt t = none
  /-- Applying all that is pending makes all tables, or nothing if they exist. -/
  latest : ∃ s', s.migrate = (.ok (), s') ∧ (∀ t, s'.hasTable t = true) ∧
    ((∀ t, s.hasTable t = true) → s' = s)
  /-- A read works if its table exists, up to a revision that is not stored. -/
  works : ∀ {α : Type} (read : Read α) (t : TableName), read.table? = some t →
    s.hasTable t = true → (∃ a, read.answer s = .ok a) ∨
      ∃ id, read.revision? = some id ∧ read.answer s = .error (.revisionNotFound id)
  fails : ∀ {α : Type} (read : Read α) (t : TableName), read.table? = some t →
    s.hasTable t = false → ∃ why, read.answer s = .error (.database why)

/-- What is in step now stays so behind the next migrations. -/
theorem IsMigrated.inStep {s : Store} (h : s.IsMigrated) : s.InStep where
  toIsMigrated := h
  up count := by
    obtain ⟨s', hrun, -, hrest⟩ := h.migrateUp count
    exact ⟨s', hrun, hrest⟩
  down count := by
    obtain ⟨s', hrun, -, hrest⟩ := h.migrateDown count
    exact ⟨s', hrun, hrest⟩
  latest := by
    obtain ⟨s', hrun, h', happlied, hkept, -⟩ := h.migrateUp none
    have hall : s'.applied = TableName.all := happlied
    refine ⟨s', hrun, fun t => ?_, fun hexist => ?_⟩
    · rw [h'.tables, hall]
      exact TableName.mem_all t
    · exact ext_tableAt (fun t => hkept t ((h.tables t).mp (hexist t)))
        (hall.trans (h.applied_eq_all hexist).symm)
  works read t hread ht := read.answer_of_hasTable hread ht
  fails read t hread ht := read.answer_of_missing hread ht

/-- **Migrations keep schema, record and rows in step.** Behind any migrations up and down, by any
number, and any calls in between, the first migrations of the list are applied and exactly their
tables exist, with their indexes. No migration fails from there: up makes empty tables, down drops
tables, and both leave the tables that stay; applying all that is pending makes all tables, and
changes nothing if they exist. The reads of a repository work exactly while its table exists. -/
theorem inStep_afterSteps (steps : List Step) : (afterSteps steps).InStep :=
  (isMigrated_afterSteps steps).inStep

end Store

end TagTimeline
