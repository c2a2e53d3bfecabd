import TagTimeline.Proofs.Store.Migrating

/-!
# Rows under Migrations

Applying migrations adds to a store: tables without rows where there are none, indexes and records.
No row comes or goes, whatever state the store is in and wherever a migration fails. If the tables
of all recorded migrations are there, they still are afterwards; so all tables are there once
nothing is pending.

## Main results

* `Store.grows_migrate` — migrating leaves every row.
* `Store.RecordHolds.hasTable_of_migrate` — what has been migrated has all tables.
-/

namespace TagTimeline.Store

/-- **That a store has grown**: tables may have come to it, but no row has come or gone. -/
structure Grows (s s' : Store) : Prop where
  rows : ∀ t, s'.rowsAt t = s.rowsAt t
  tables : ∀ t, s.hasTable t = true → s'.hasTable t = true

/-- **That recorded migrations have their tables.** -/
def RecordHolds (s : Store) : Prop := ∀ t ∈ s.applied, s.hasTable t = true

namespace Grows

/-- A store without a change has grown. -/
theorem refl (s : Store) : s.Grows s := ⟨fun _ => rfl, fun _ h => h⟩

/-- What has grown may grow again. -/
theorem trans {s s' s'' : Store} (h : s.Grows s') (h' : s'.Grows s'') : s.Grows s'' :=
  ⟨fun t => (h'.rows t).trans (h.rows t), fun t ht => h'.tables t (h.tables t ht)⟩

/-- A store grows by whatever keeps the rows of each table that is there, and makes others
without rows. -/
theorem of_tableAt {s s' : Store}
    (h : ∀ t, (s'.tableAt t).map Table.rows = (s.tableAt t).map Table.rows ∨
      s.tableAt t = none ∧ (s'.tableAt t).map Table.rows = some []) : s.Grows s' := by
  refine ⟨fun t => ?_, fun t ht => ?_⟩
  · rcases h t with hsame | ⟨hnone, hempty⟩
    · rw [rowsAt, rowsAt, hsame]
    · rw [rowsAt, rowsAt, hempty, hnone]
      rfl
  · rw [hasTable_eq] at ht ⊢
    rcases h t with hsame | ⟨hnone, -⟩
    · simpa using (congrArg Option.isSome hsame).trans (by simpa using ht)
    · simp [hnone] at ht

end Grows

/-! ### Statements on the schema -/

/-- Making a table that is not there, the store grows. -/
theorem grows_withEmptyTable {s : Store} {t : TableName} (h : s.hasTable t = false) :
    s.Grows (s.withEmptyTable t) := by
  refine .of_tableAt fun t' => ?_
  rw [tableAt_withEmptyTable]
  split
  · next heq =>
      rw [heq]
      rw [hasTable_eq] at h
      exact .inr ⟨by simpa using h, rfl⟩
  · exact .inl rfl

/-- Making an index, the store grows. -/
theorem grows_withIndex (s : Store) (t : TableName) (index : String) :
    s.Grows (s.withIndex index t) := by
  refine .of_tableAt fun t' => .inl ?_
  rw [tableAt_withIndex]
  split
  · next heq =>
      rw [heq, Option.map_map]
      rfl
  · rfl

/-- Making a table unless it is there, the store grows and has it. -/
theorem runSchema_createTable (s : Store) (t : TableName) :
    ∃ s', s.runSchema (.createTable t) = .ok s' ∧ s.Grows s' ∧ s'.applied = s.applied ∧
      s'.hasTable t = true := by
  cases hhas : s.hasTable t with
  | true => exact ⟨s, by rw [runSchema, hhas]; rfl, .refl s, rfl, hhas⟩
  | false =>
      refine ⟨s.withEmptyTable t, by rw [runSchema, hhas]; rfl, grows_withEmptyTable hhas,
        applied_withEmptyTable s t, ?_⟩
      rw [hasTable_eq, tableAt_withEmptyTable, if_pos rfl]
      rfl

/-- Indexes that are made, as far as they can be, make a store grow. -/
theorem grows_runSchemaAll_createIndex (context : String) (t : TableName) (names : List String)
    (s : Store) :
    s.Grows (runSchemaAll context (names.map (.createIndex t)) s).2 ∧
      (runSchemaAll context (names.map (.createIndex t)) s).2.applied = s.applied := by
  induction names generalizing s with
  | nil => exact ⟨.refl s, rfl⟩
  | cons index more ih =>
      rw [List.map_cons, runSchemaAll]
      cases hrun : s.runSchema (.createIndex t index) with
      | error failure => exact ⟨.refl s, rfl⟩
      | ok s₁ =>
          obtain ⟨hgrows, happlied⟩ := ih s₁
          -- an index that is made has changed nothing else
          have hmade : s₁ = s.withIndex index t := by
            simp only [runSchema] at hrun
            split at hrun
            · cases hrun
            · split at hrun
              · exact (Except.ok.inj hrun).symm
              · cases hrun
          rw [hmade] at hgrows happlied ⊢
          exact ⟨(grows_withIndex s t index).trans hgrows,
            happlied.trans (applied_withIndex s t index)⟩

/-! ### Migrations -/

section

variable (s : Store) (t : TableName)

/-- **Applying a migration** makes a store grow, and it is recorded exactly if it succeeds. Then its
table is there. -/
theorem applyMigration_cases :
    (∃ s', s.applyMigration t = (.ok (), s') ∧ s.Grows s' ∧ s'.applied = s.applied ++ [t] ∧
      s'.hasTable t = true) ∨
    ∃ e s', s.applyMigration t = (.error e, s') ∧ s.Grows s' ∧ s'.applied = s.applied := by
  obtain ⟨s₁, hcreate, hgrows₁, happlied₁, hhas₁⟩ := s.runSchema_createTable t
  obtain ⟨hgrows, happlied⟩ := grows_runSchemaAll_createIndex migrateContext t t.indexes s₁
  have hrun : runSchemaAll migrateContext t.upStatements s =
      runSchemaAll migrateContext (t.indexes.map (.createIndex t)) s₁ := by
    rw [TableName.upStatements, runSchemaAll, hcreate]
  rw [applyMigration, hrun]
  rcases hindexes : runSchemaAll migrateContext (t.indexes.map (.createIndex t)) s₁ with
    ⟨e | _, s'⟩
  · rw [hindexes] at hgrows happlied
    exact .inr ⟨e, s', rfl, hgrows₁.trans hgrows, happlied.trans happlied₁⟩
  · rw [hindexes] at hgrows happlied
    refine .inl ⟨_, rfl, ?_, ?_, ?_⟩
    · have hall := hgrows₁.trans hgrows
      exact ⟨fun t' => by cases t' <;> exact hall.rows _,
        fun t' ht' => by cases t' <;> exact hall.tables _ ht'⟩
    · rw [← happlied₁, ← happlied]
    · have hthere := hgrows.tables t hhas₁
      cases t <;> exact hthere

end

/-- What grows without a record more still has the tables that are recorded. -/
theorem RecordHolds.of_grows {s s' : Store} (h : s.RecordHolds) (hgrows : s.Grows s')
    (happlied : s'.applied = s.applied) : s'.RecordHolds := fun t ht =>
  hgrows.tables t (h t (happlied ▸ ht))

/-- Stores of one schema have their recorded tables together. -/
theorem RecordHolds.of_sameSchema {s s' : Store} (h : s.RecordHolds) (hsame : s.SameSchema s') :
    s'.RecordHolds := fun t ht => (hsame.hasTable t).trans (h t (hsame.applied ▸ ht))

/-- **Applying migrations** until one fails makes a store grow. Recorded migrations have their
tables, before and after; recorded are in addition the first of those to be applied, and all of them
exactly if none fails. -/
theorem runEach_applyMigration (tables : List TableName) (s : Store) :
    s.Grows (runEach applyMigration tables s).2 ∧
      (s.RecordHolds → (runEach applyMigration tables s).2.RecordHolds) ∧
      ∃ done rest, tables = done ++ rest ∧
        (runEach applyMigration tables s).2.applied = s.applied ++ done ∧
        ((runEach applyMigration tables s).1 = .ok () ↔ rest = []) := by
  induction tables generalizing s with
  | nil => exact ⟨.refl s, fun h => h, [], [], rfl, (List.append_nil _).symm, by simp [runEach]⟩
  | cons t more ih =>
      rw [runEach]
      rcases s.applyMigration_cases t with
        ⟨s₁, happly, hgrows, happlied, hhas⟩ | ⟨e, s₁, happly, hgrows, happlied⟩
      · obtain ⟨hmore, hrecord, done, rest, htables, hdone, hok⟩ := ih s₁
        rw [happly]
        refine ⟨hgrows.trans hmore, fun h => hrecord fun t' ht' => ?_, t :: done, rest,
          congrArg (t :: ·) htables, ?_, hok⟩
        · rw [happlied, List.mem_append, List.mem_singleton] at ht'
          rcases ht' with hold | rfl
          · exact hgrows.tables t' (h t' hold)
          · exact hhas
        · simp only [hdone, happlied, List.append_assoc, List.singleton_append]
      · rw [happly]
        exact ⟨hgrows, fun h => h.of_grows hgrows happlied, [], t :: more, rfl,
          happlied.trans (List.append_nil _).symm, by simp⟩

section

variable {s s' : Store}

/-- **Migrating leaves every row**, whether it succeeds or fails. -/
theorem grows_migrate (s : Store) : s.Grows s.migrate.2 := (runEach_applyMigration s.pending s).1

/-- Recorded migrations have their tables after migrating. -/
theorem RecordHolds.migrate (h : s.RecordHolds) : s.migrate.2.RecordHolds :=
  (runEach_applyMigration s.pending s).2.1 h

/-- A migration is pending exactly if it is not recorded. -/
theorem mem_pending_iff {t : TableName} : t ∈ s.pending ↔ t ∉ s.applied := by
  rw [pending, List.mem_filter]
  simp [t.mem_all]

/-- **Migrating succeeds** exactly if nothing is left to migrate. -/
theorem migrate_eq_ok_iff : s.migrate.1 = .ok () ↔ s.migrate.2.pending = [] := by
  obtain ⟨done, rest, hpending, happlied, hok⟩ := (runEach_applyMigration s.pending s).2.2
  have happlied' : s.migrate.2.applied = s.applied ++ done := happlied
  refine hok.trans ?_
  rw [List.eq_nil_iff_forall_not_mem, List.eq_nil_iff_forall_not_mem]
  refine forall_congr' fun t => not_congr ?_
  rw [mem_pending_iff, happlied', List.mem_append, not_or, ← mem_pending_iff, hpending,
    List.mem_append]
  -- no migration is pending twice
  have hnodup : (done ++ rest).Nodup := hpending ▸ TableName.nodup_all.filter _
  have hapart : t ∈ rest → t ∉ done := fun hrest hdone =>
    (List.nodup_append.mp hnodup).2.2 t hdone t hrest rfl
  tauto

/-- Nothing is left to migrate exactly if migrating succeeds without a change. -/
theorem pending_eq_nil_iff : s.pending = [] ↔ s.migrate = (.ok (), s) := by
  constructor
  · intro h
    rw [Store.migrate, migrateUp, firstOf, h, runEach]
  · intro h
    have hnone : s.migrate.2.pending = [] := migrate_eq_ok_iff.mp (by rw [h])
    rwa [h] at hnone

/-- **What has been migrated has all tables.** -/
theorem RecordHolds.hasTable_of_migrate (h : s.RecordHolds) (hrun : s.migrate = (.ok (), s'))
    (t : TableName) : s'.hasTable t = true := by
  have hrecord := h.migrate
  have hnone := migrate_eq_ok_iff.mp (congrArg Prod.fst hrun)
  rw [hrun] at hrecord hnone
  refine hrecord t ?_
  by_contra ht
  exact List.not_mem_nil (hnone ▸ mem_pending_iff.mpr ht)

end

end TagTimeline.Store
