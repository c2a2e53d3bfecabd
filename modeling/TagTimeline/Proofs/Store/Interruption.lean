import TagTimeline.Proofs.Store.Migrating

/-!
# Interrupted Migrations

What is left when migrating stops at some point, and what migrating again makes of it. Migrating is
a sequence of small steps, statements on the schema and entries in the record of migrations, each
done or not. Behind some of them the first migrations of the list are applied, and of the next one
there may be a table with the first of its indexes.

A table that is there is taken as it is, but an index that is there stands in the way. So migrating
again gets to its end exactly if the migration in progress had made no index yet; otherwise it fails
of the first of them, changes nothing, and will do so every time.

## Main results

* `Store.migrate_eq` — migrating is a sequence of small steps.
* `Store.migrate_stoppedAfter` — what migrating again does behind any of them.
* `Store.migrate_stoppedAfter_two` — a point from which no run gets to its end.
-/

namespace TagTimeline

/-- **A small step of migrating**: a statement on the schema, or an entry in the record. -/
inductive MigrationStep where
  | schema (statement : SchemaStatement)
  | record (table : TableName)

namespace MigrationStep

/-- The small steps of one migration, which is recorded at its end. -/
def ofTable (t : TableName) : List MigrationStep := t.upStatements.map .schema ++ [.record t]

/-- Does small steps until one fails. -/
def runAll : List MigrationStep → Store → Outcome Unit
  | [], s => (.ok (), s)
  | .schema statement :: more, s =>
      match s.runSchema statement with
      | .error failure => (.error (Store.failed Store.migrateContext failure), s)
      | .ok s => runAll more s
  | .record t :: more, s => runAll more { s with applied := s.applied ++ [t] }

/-- Steps behind statements on the schema. -/
theorem runAll_schema_append (statements : List SchemaStatement) (more : List MigrationStep)
    (s : Store) :
    runAll (statements.map .schema ++ more) s =
      match Store.runSchemaAll Store.migrateContext statements s with
      | (.ok (), s') => runAll more s'
      | failure => failure := by
  induction statements generalizing s with
  | nil => rfl
  | cons statement rest ih =>
      rw [List.map_cons, List.cons_append, runAll, Store.runSchemaAll]
      cases s.runSchema statement with
      | error failure => rfl
      | ok s' => exact ih s'

/-- Steps behind those of one migration. -/
theorem runAll_ofTable_append (t : TableName) (more : List MigrationStep) (s : Store) :
    runAll (ofTable t ++ more) s =
      match s.applyMigration t with
      | (.ok (), s') => runAll more s'
      | failure => failure := by
  rw [ofTable, List.append_assoc, runAll_schema_append, Store.applyMigration]
  rcases Store.runSchemaAll Store.migrateContext t.upStatements s with ⟨_ | _, s'⟩ <;> rfl

/-- Migrations are applied by their small steps. -/
theorem runEach_applyMigration (tables : List TableName) (s : Store) :
    Store.runEach Store.applyMigration tables s = runAll (tables.flatMap ofTable) s := by
  induction tables generalizing s with
  | nil => rfl
  | cons t more ih =>
      rw [List.flatMap_cons, runAll_ofTable_append, Store.runEach]
      rcases s.applyMigration t with ⟨_ | _, s'⟩
      · rfl
      · exact ih s'

end MigrationStep

namespace Store

/-- The small steps that migrating consists of. -/
def migrationSteps (s : Store) : List MigrationStep := s.pending.flatMap MigrationStep.ofTable

/-- **Migrating is a sequence of small steps.** -/
theorem migrate_eq (s : Store) : s.migrate = MigrationStep.runAll s.migrationSteps s :=
  MigrationStep.runEach_applyMigration s.pending s

/-- **The store when migrating stops** after so many small steps. -/
def stoppedAfter (n : Nat) (s : Store) : Store :=
  (MigrationStep.runAll (s.migrationSteps.take n) s).2

/-- **That an index stands in the way** of the next migration: its table exists, and an index that
it makes. -/
structure IsStuck (s : Store) (t : TableName) : Prop where
  applied : s.applied ++ [t] <+: TableName.all
  first : ∃ index more, t.indexes = index :: more ∧ index ∈ s.indexesOf t

/-- **What is left where migrating stops**: between two migrations all is as it should be; within
one its table may be there, and then the first of its indexes. -/
inductive IsStopped (s : Store) : Prop where
  | between (migrated : s.IsMigrated)
  | unindexed (t : TableName) (next : s.IsNext t)
  | stuck (t : TableName) (stuck : s.IsStuck t)

section

variable {s s' : Store}

/-- What is left has no more in it than its schema tells. -/
theorem IsStopped.of_sameSchema (h : s.IsStopped) (hsame : s.SameSchema s') : s'.IsStopped := by
  cases h with
  | between migrated => exact .between (migrated.of_sameSchema hsame)
  | unindexed t next =>
      refine .unindexed t ⟨?_, fun t' ht' => ?_, fun t' ht' => ?_, ?_⟩
      · rw [hsame.applied]
        exact next.applied
      · rw [hsame.hasTable, hsame.applied]
        exact next.tables t' ht'
      · rw [hsame.indexesOf]
        exact next.indexes t' (hsame.applied ▸ ht')
      · rw [hsame.indexesOf]
        exact next.unindexed
  | stuck t stuck =>
      obtain ⟨index, more, hindexes, hindex⟩ := stuck.first
      refine .stuck t ⟨?_, index, more, hindexes, ?_⟩
      · rw [hsame.applied]
        exact stuck.applied
      · rw [hsame.indexesOf]
        exact hindex

/-- A part of a migration makes its table with the first of its indexes. -/
theorem IsNext.isStopped_runSchemaAll {t : TableName} (h : s.IsNext t) {names : List String}
    (hnames : names <+: t.indexes)
    (hrun : Store.runSchemaAll migrateContext (.createTable t :: names.map (.createIndex t)) s =
      (.ok (), s')) :
    s'.IsStopped ∧ ∀ t' ∈ s.applied, s'.tableAt t' = s.tableAt t' := by
  obtain ⟨s'', hrun', happlied, htable, hothers⟩ := h.runSchemaAll hnames
  obtain rfl : s'' = s' := (Prod.mk.inj (hrun'.symm.trans hrun)).2
  have hnext : s''.applied ++ [t] <+: TableName.all := happlied.symm ▸ h.applied
  have hindexes : s''.indexesOf t = names := by
    rw [indexesOf_eq, htable]
    rfl
  have hkept : ∀ t' ∈ s.applied, s''.tableAt t' = s.tableAt t' := fun t' ht' =>
    hothers t' fun heq => TableName.not_mem_of_next h.applied (heq ▸ ht')
  refine ⟨?_, hkept⟩
  cases names with
  | nil =>
      refine .unindexed t ⟨hnext, fun t' ht' => ?_, fun t' ht' => ?_, hindexes⟩
      · rw [hasTable_eq, hothers t' ht', ← hasTable_eq, happlied]
        exact h.tables t' ht'
      · rw [happlied] at ht'
        rw [indexesOf_eq, hkept t' ht', ← indexesOf_eq]
        exact h.indexes t' ht'
  | cons index more =>
      obtain ⟨rest, hrest⟩ := hnames
      exact .stuck t ⟨hnext, index, more ++ rest, hrest.symm, hindexes ▸ List.mem_cons_self⟩

/-- **Where applying the next migrations stops**, and that it leaves the tables of those applied. -/
theorem IsMigrated.isStopped_take (h : s.IsMigrated) {rest : List TableName}
    (hrest : s.applied ++ rest <+: TableName.all) (n : Nat) :
    (MigrationStep.runAll ((rest.flatMap MigrationStep.ofTable).take n) s).2.IsStopped ∧
    ∀ t ∈ s.applied,
      (MigrationStep.runAll ((rest.flatMap MigrationStep.ofTable).take n) s).2.tableAt t =
        s.tableAt t := by
  induction rest generalizing s n with
  | nil =>
      rw [List.flatMap_nil, List.take_nil]
      exact ⟨.between h, fun _ _ => rfl⟩
  | cons t more ih =>
      have hcons : s.applied ++ t :: more = (s.applied ++ [t]) ++ more := by simp
      have hnext := h.isNext ((List.prefix_append _ more).trans (hcons ▸ hrest))
      have hlength : (MigrationStep.ofTable t).length = t.indexes.length + 2 := by
        simp [MigrationStep.ofTable, TableName.upStatements]
      rw [List.flatMap_cons]
      by_cases hn : t.indexes.length + 2 ≤ n
      · -- the migration is applied, and a later one stops
        obtain ⟨k, rfl⟩ := Nat.exists_eq_add_of_le hn
        obtain ⟨s₁, happly, h₁, happlied, -, hothers⟩ := hnext.applyMigration
        obtain ⟨hstopped, hkept⟩ := ih h₁ (by rw [happlied, ← hcons]; exact hrest) k
        rw [← hlength, List.take_length_add_append, MigrationStep.runAll_ofTable_append, happly]
        refine ⟨hstopped, fun t' ht' => ?_⟩
        rw [hkept t' (by rw [happlied]; exact List.mem_append_left _ ht')]
        exact hothers t' fun heq => TableName.not_mem_of_next hnext.applied (heq ▸ ht')
      · cases n with
        | zero =>
            rw [List.take_zero]
            exact ⟨.between h, fun _ _ => rfl⟩
        | succ k =>
            -- the first `k` indexes are made
            have hsteps : (MigrationStep.ofTable t ++ more.flatMap MigrationStep.ofTable).take
                (k + 1) =
                (SchemaStatement.createTable t ::
                  (t.indexes.take k).map (.createIndex t)).map .schema ++ [] := by
              have hk : k ≤ t.indexes.length := by omega
              rw [List.take_append_of_le_length (by omega), MigrationStep.ofTable,
                List.take_append_of_le_length (by simp [TableName.upStatements, hk]),
                TableName.upStatements, List.map_cons, List.take_succ_cons, List.map_cons,
                List.append_nil, ← List.map_take, ← List.map_take]
            have hfirst : t.indexes.take k <+: t.indexes := List.take_prefix k t.indexes
            obtain ⟨s₁, hrun, -⟩ := hnext.runSchemaAll hfirst
            rw [hsteps, MigrationStep.runAll_schema_append, hrun]
            exact hnext.isStopped_runSchemaAll hfirst hrun

/-- What is pending before the last migration begins with the next one. -/
theorem exists_pending_eq {t : TableName} (hnext : s.applied ++ [t] <+: TableName.all) :
    ∃ rest, s.applied ++ t :: rest = TableName.all ∧ s.pending = t :: rest := by
  obtain ⟨rest, hrest⟩ := hnext
  have hall : s.applied ++ t :: rest = TableName.all := by simpa using hrest
  exact ⟨rest, hall, IsMigrated.pending_eq hall⟩

/-- **Migrating from a finished state** makes the tables that are missing. -/
theorem IsMigrated.migrate (h : s.IsMigrated) :
    ∃ s', s.migrate = (.ok (), s') ∧ s'.applied = TableName.all ∧
      ∀ t, s'.tableAt t = some ⟨s.rowsAt t, t.indexes⟩ := by
  obtain ⟨s', hrun, h', happlied, hkept, hmade⟩ := h.migrateUp none
  have hall : s'.applied = TableName.all := happlied
  refine ⟨s', hrun, hall, fun t => ?_⟩
  by_cases ht : t ∈ s.applied
  · have hindexes := h.indexes t ht
    have hhas := (h.tables t).mpr ht
    rw [indexesOf_eq] at hindexes
    rw [hasTable_eq] at hhas
    obtain ⟨table, htable⟩ := Option.isSome_iff_exists.mp hhas
    rw [htable, Option.map_some, Option.getD_some] at hindexes
    rw [hkept t ht, htable, rowsAt, htable, ← hindexes]
    rfl
  · rw [hmade t (hall ▸ TableName.mem_all t) ht, rowsAt, h.tableAt_of_not_mem ht]
    rfl

/-- **Migrating where no index stands in the way** finishes the next migration and the others. -/
theorem IsNext.migrate {t : TableName} (h : s.IsNext t) :
    ∃ s', s.migrate = (.ok (), s') ∧ s'.applied = TableName.all ∧
      ∀ t, s'.tableAt t = some ⟨s.rowsAt t, t.indexes⟩ := by
  obtain ⟨rest, hall, hpending⟩ := exists_pending_eq h.applied
  obtain ⟨s₁, happly, h₁, happlied, htable, hothers⟩ := h.applyMigration
  obtain ⟨s', hrun, happlied', hmade⟩ := h₁.migrate
  refine ⟨s', ?_, happlied', fun t' => ?_⟩
  · have hpending₁ : s₁.pending = rest := by
      refine IsMigrated.pending_eq ?_
      rw [happlied, List.append_assoc]
      exact hall
    rw [← hrun, Store.migrate, Store.migrate, Store.migrateUp, Store.migrateUp, firstOf, firstOf,
      hpending, hpending₁, runEach, happly]
  · rw [hmade]
    by_cases ht' : t' = t
    · subst ht'
      rw [rowsAt, htable]
      rfl
    · rw [rowsAt, hothers t' ht', ← rowsAt]

/-- **Migrating where an index stands in the way** fails of it and changes nothing. -/
theorem IsStuck.migrate {t : TableName} (h : s.IsStuck t) :
    ∃ index ∈ s.indexesOf t,
      s.migrate = (.error (failed migrateContext (.existingIndex index)), s) := by
  obtain ⟨rest, -, hpending⟩ := exists_pending_eq h.applied
  obtain ⟨index, more, hindexes, hindex⟩ := h.first
  have hhas := hasTable_of_mem_indexesOf hindex
  have hused : (TableName.all.any fun t => (s.indexesOf t).contains index) = true :=
    List.any_eq_true.mpr ⟨t, t.mem_all, List.contains_iff_mem.mpr hindex⟩
  refine ⟨index, hindex, ?_⟩
  rw [Store.migrate, Store.migrateUp, firstOf, hpending, runEach, Store.applyMigration,
    TableName.upStatements, hindexes, List.map_cons, Store.runSchemaAll, runSchema, if_pos hhas]
  simp only [runSchemaAll, runSchema, hused, ↓reduceIte]

end

/-- **An interrupted migration** can be taken up again exactly while it has made no index. Wherever
migrating stops, the tables of the migrations that were applied stay as they were. Whatever has come
into its tables since, migrating again gets to its end if there is no index of a migration that is
not recorded: then all tables exist with their rows and their indexes, and all migrations are
recorded. If there is one, migrating fails of an index and changes nothing. Behind the last small
step migrating has come to its own end. -/
theorem migrate_stoppedAfter {s s' : Store} (h : s.IsMigrated) (n : Nat)
    (hsame : (s.stoppedAfter n).SameSchema s') :
    (∀ t ∈ s.applied, (s.stoppedAfter n).tableAt t = s.tableAt t) ∧
    ((∀ t, t ∉ s'.applied → s'.indexesOf t = []) →
      ∃ s'', s'.migrate = (.ok (), s'') ∧ s''.applied = TableName.all ∧
        ∀ t, s''.tableAt t = some ⟨s'.rowsAt t, t.indexes⟩) ∧
    ((∃ t, t ∉ s'.applied ∧ s'.indexesOf t ≠ []) →
      ∃ t, ∃ index ∈ s'.indexesOf t, t ∉ s'.applied ∧
        s'.migrate = (.error (failed migrateContext (.existingIndex index)), s')) ∧
    s.stoppedAfter s.migrationSteps.length = s.migrate.2 := by
  obtain ⟨rest, hrest⟩ := h.applied
  have hstopped := h.isStopped_take ⟨[], (List.append_nil _).trans hrest⟩ n
  rw [← IsMigrated.pending_eq hrest] at hstopped
  have hend : s.stoppedAfter s.migrationSteps.length = s.migrate.2 := by
    rw [stoppedAfter, List.take_length, migrate_eq]
  refine ⟨hstopped.2, and_assoc.mp ⟨?_, hend⟩⟩
  have hleft : s'.IsStopped := hstopped.1.of_sameSchema hsame
  cases hleft with
  | between migrated =>
      refine ⟨fun _ => migrated.migrate, fun ⟨t, ht, hindexes⟩ => absurd ?_ hindexes⟩
      rw [indexesOf_eq, migrated.tableAt_of_not_mem ht]
      rfl
  | unindexed t next =>
      refine ⟨fun _ => next.migrate, fun ⟨t', ht', hindexes⟩ => absurd ?_ hindexes⟩
      by_cases htt' : t' = t
      · rw [htt', next.unindexed]
      · refine List.eq_nil_iff_forall_not_mem.mpr fun index hindex => ?_
        exact ht' ((next.tables t' htt').mp (hasTable_of_mem_indexesOf hindex))
  | stuck t stuck =>
      have hnew := TableName.not_mem_of_next stuck.applied
      obtain ⟨index, hindex, hfails⟩ := stuck.migrate
      refine ⟨fun hnone => ?_, fun _ => ⟨t, index, hindex, hnew, hfails⟩⟩
      rw [hnone t hnew] at hindex
      exact absurd hindex List.not_mem_nil

/-- A store with a tag, before its revisions have a table. -/
def tagged : Store :=
  afterSteps
    [.up (some 1), .call (.addTags ["t1"] .epoch [⟨"rust", "Rust", "", "", true, false⟩])]

/-- That store when migrating has just made the table of revisions, and one was put in. -/
def revised : Store :=
  ((Call.createRevision "r1" .epoch ⟨"u1", "q1", "", "", none⟩).run (tagged.stoppedAfter 1)).2

/-- Migrating again keeps a revision that was put into a table not yet recorded. -/
theorem migrate_stoppedAfter_revised :
    tagged.IsMigrated ∧ (tagged.stoppedAfter 1).SameSchema revised ∧
      (∀ t, t ∉ revised.applied → revised.indexesOf t = []) ∧
      ∃ s', revised.migrate = (.ok (), s') ∧ s'.applied = TableName.all ∧
        ∀ t, s'.tableAt t = some ⟨revised.rowsAt t, t.indexes⟩ := by
  have htagged : tagged.IsMigrated := isMigrated_afterSteps _
  have hsame : (tagged.stoppedAfter 1).SameSchema revised := Call.sameSchema_run _ _
  have hfree : ∀ t, t ∉ revised.applied → revised.indexesOf t = [] := by
    intro t
    cases t <;> decide
  exact ⟨htagged, hsame, hfree, (migrate_stoppedAfter htagged 1 hsame).2.1 hfree⟩

/-- **A point from which no run gets to its end**: when the table of tags and the first of its
indexes have been made, migrating again fails, and leaves just that. -/
theorem migrate_stoppedAfter_two :
    empty.IsMigrated ∧
      (empty.stoppedAfter 2).migrate =
        (.error (failed "migrate" (.existingIndex "idx_tag_main_tag_id")), empty.stoppedAfter 2) ∧
      ¬ ∃ s', (empty.stoppedAfter 2).migrate = (.ok (), s') := by
  have hfails : (empty.stoppedAfter 2).migrate =
      (.error (failed "migrate" (.existingIndex "idx_tag_main_tag_id")), empty.stoppedAfter 2) :=
    rfl
  refine ⟨isMigrated_empty, hfails, fun ⟨s', hrun⟩ => ?_⟩
  rw [hfails] at hrun
  cases hrun

end Store

end TagTimeline
