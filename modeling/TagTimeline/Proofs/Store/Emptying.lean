import Mathlib.Logic.Equiv.Basic
import TagTimeline.Proofs.Store.Migrating
import TagTimeline.Proofs.Store.RenamedCalls
import TagTimeline.Store.Cleanup

/-!
# An Emptied Store is a New One

Emptying erases the rows of every table and touches neither tables nor indexes nor the record of
migrations. A store keeps nothing besides these, so one in which all migrations are applied is,
once it has been emptied, the store that they make of an empty database: whatever it has been
through shows in nothing that comes after. Calls that come after get other ids and read other times
than they would on a new store; but of these only the order shows in what is answered.

## Main results

* `Store.cleanup_eq` — what emptying a store does.
* `Store.IsMigrated.cleanup_eq` — an emptied store is a new one.
* `Store.cleanup_asNew` — emptying at any moment.
-/

namespace TagTimeline

namespace Table

variable {Row : Type}

/-- A table without its rows. -/
def emptied (table : Table Row) : Table Row := { table with rows := [] }

end Table

namespace Store

/-- A store without the rows of one table. -/
def withoutRows (s : Store) : TableName → Store
  | .tag => { s with tags := s.tags.map Table.emptied }
  | .revision => { s with revisions := s.revisions.map Table.emptied }
  | .activity => { s with activities := s.activities.map Table.emptied }
  | .siteSettings => { s with settings := s.settings.map Table.emptied }

section

variable (s : Store) (t t' : TableName)

/-- A table stays in its place without its rows. -/
theorem tableAt_withoutRows :
    (s.withoutRows t).tableAt t' =
      if t' = t then (s.tableAt t').map Table.emptied else s.tableAt t' := by
  cases t <;> cases t' <;> rfl

/-- Erasing rows is not recorded. -/
theorem applied_withoutRows : (s.withoutRows t).applied = s.applied := by cases t <;> rfl

/-- Erasing rows leaves every table where it is. -/
theorem hasTable_withoutRows : (s.withoutRows t).hasTable t' = s.hasTable t' := by
  rw [hasTable_eq, hasTable_eq, tableAt_withoutRows]
  split
  · exact Option.isSome_map
  · rfl

end

variable {s : Store}

/-- The statement that erases all rows works if their table exists. -/
theorem write_clear {Row : Type} [Stored Row] (h : (s.table? Row).isSome = true)
    (context : String) :
    s.write context (Statement.clear : Statement Row Unit) =
      (.ok (), Stored.withTable s ((s.table? Row).map Table.emptied)) := by
  obtain ⟨table, htable⟩ := Option.isSome_iff_exists.mp h
  rw [write, htable]
  rfl

/-- **Erasing the rows of a table** works if it exists. -/
theorem clearTable_eq {t : TableName} (h : s.hasTable t = true) :
    s.clearTable t = (.ok (), s.withoutRows t) := by
  cases t with
  | tag => exact @write_clear s Tag _ h _
  | revision => exact @write_clear s Revision _ h _
  | activity => exact @write_clear s Activity _ h _
  | siteSettings => exact @write_clear s SiteSettings _ h _

/-- **Erasing the rows of some tables** works if they all exist. -/
theorem clearTables_eq {tables : List TableName} (h : ∀ t ∈ tables, s.hasTable t = true) :
    clearTables tables s = (.ok (), tables.foldl withoutRows s) := by
  induction tables generalizing s with
  | nil => rfl
  | cons t more ih =>
      rw [clearTables, clearTable_eq (h t List.mem_cons_self)]
      exact ih fun t' ht' =>
        (hasTable_withoutRows s t t').trans (h t' (List.mem_cons_of_mem t ht'))

/-- **Emptying a store** in which every table exists erases the rows of all tables and nothing
else. -/
theorem cleanup_eq (h : ∀ t, s.hasTable t = true) :
    ∃ s', s.cleanup = (.ok (), s') ∧ s'.applied = s.applied ∧
      ∀ t, s'.tableAt t = (s.tableAt t).map Table.emptied := by
  refine ⟨_, clearTables_eq fun t _ => h t, ?_, fun t => ?_⟩
  · simp only [List.foldl_cons, List.foldl_nil, applied_withoutRows]
  · cases t <;> rfl

/-- The tables of a new store are empty, with their indexes. -/
theorem tableAt_fresh (t : TableName) : fresh.tableAt t = some ⟨[], t.indexes⟩ := by
  cases t <;> rfl

/-- **An emptied store is a new one** if all migrations are applied. -/
theorem IsMigrated.cleanup_eq (h : s.IsMigrated) (hexist : ∀ t, s.hasTable t = true) :
    s.cleanup = (.ok (), fresh) := by
  have happlied := h.applied_eq_all hexist
  obtain ⟨s', hclear, hsame, hemptied⟩ := Store.cleanup_eq hexist
  have hfresh : s' = fresh := by
    refine ext_tableAt (fun t => ?_) (hsame.trans happlied)
    obtain ⟨table, htable⟩ := Option.isSome_iff_exists.mp (hasTable_eq s t ▸ hexist t)
    have hindexes : table.indexes = t.indexes := by
      have hindexes := h.indexes t (happlied ▸ t.mem_all)
      rw [indexesOf_eq, htable] at hindexes
      exact hindexes
    rw [hemptied, htable, tableAt_fresh, ← hindexes]
    rfl
  rw [hclear, hfresh]

/-! ### Emptying at any moment -/

/-- **What a store that is migrated is put to**: calls of clients, emptying it, and migrating it
again. -/
inductive Use : Type 1 where
  | call {α : Type} (call : Call α)
  | cleanup
  | migrate

/-- The store behind a use. -/
def Use.behind : Use → Store → Store
  | call c, s => (c.run s).2
  | cleanup, s => s.cleanup.2
  | migrate, s => s.migrate.2

/-- **The store behind some uses** of a store. -/
def afterUses (s : Store) (uses : List Use) : Store := uses.foldl (fun s use => use.behind s) s

/-- **That a store is fully migrated**: it has every table. -/
structure IsComplete (s : Store) : Prop extends IsMigrated s where
  exist : ∀ t, s.hasTable t = true

/-- A new store is fully migrated. -/
theorem isComplete_fresh : fresh.IsComplete where
  toIsMigrated := isMigrated_afterSteps [.up none]
  exist t := by cases t <;> decide

namespace IsComplete

/-- Migrating a store that is fully migrated changes nothing. -/
theorem migrate_eq (h : s.IsComplete) : s.migrate = (.ok (), s) := by
  obtain ⟨s', hrun, -, hsame⟩ := h.inStep.latest
  rw [hrun, hsame h.exist]

/-- A store that is fully migrated stays so in every use. -/
theorem behind (h : s.IsComplete) (use : Use) : (use.behind s).IsComplete := by
  cases use with
  | call c =>
      have hsame := c.sameSchema_run s
      exact ⟨h.of_sameSchema hsame, fun t => (hsame.hasTable t).trans (h.exist t)⟩
  | cleanup =>
      rw [Use.behind, h.cleanup_eq h.exist]
      exact isComplete_fresh
  | migrate =>
      rw [Use.behind, h.migrate_eq]
      exact h

/-- A store that is fully migrated stays so behind any uses. -/
theorem afterUses (h : s.IsComplete) (uses : List Use) : (s.afterUses uses).IsComplete := by
  induction uses generalizing s with
  | nil => exact h
  | cons use more ih => exact ih (h.behind use)

end IsComplete

/-- **What calls answer**, one after the other, from a store on. -/
def answers : List ((α : Type) × Call α) → Store → List ((α : Type) × Except ServiceError α)
  | [], _ => []
  | call :: more, s => ⟨call.1, (call.2.run s).1⟩ :: answers more (call.2.run s).2

/-- **That a store is as good as a new one**, as clients see it. -/
structure IsAsNew (s : Store) : Prop where
  /-- Calls with the same ids and times have the same answers. -/
  answers : ∀ calls, answers calls s = answers calls fresh
  /-- Calls with other ids and times have the same answers up to these. -/
  alike : ∀ (r : Renaming) (calls : List ((α : Type) × Call α)),
    (∀ call ∈ calls, r.KnowsCall call.2) → r.AnswersAlike calls fresh s
  /-- There is no tag under any slug name. -/
  unnamed : ∀ slugName tagRequired, s.tagBySlugName slugName tagRequired = .ok none
  /-- Every slug name is free: new tags with distinct ones are stored under distinct ids. -/
  free : ∀ ids now new, ids.length = new.length → ids.Nodup → (new.map NewTag.slugName).Nodup →
    s.addTags ids now new = (.ok (NewTag.made ids now new), s.withRows (NewTag.made ids now new))
  /-- The site has no settings, so it requires no tags. -/
  unset : s.findSettings = .ok none ∧ SettingSource.stored.tagRequired s = .ok false
  /-- There is nothing to migrate. -/
  migrated : s.migrate = (.ok (), s)

/-- A new store is as good as a new one, also by other names and at other times. -/
theorem isAsNew_fresh : fresh.IsAsNew where
  answers _ := rfl
  alike r _ hcalls := Renaming.answersAlike_store (Renaming.KnowsStore.fresh r) hcalls
  unnamed _ _ := rfl
  free ids now new hlength hids hslugs :=
    @addTags_of_areFree fresh [] ids new rfl hlength hids (fun _ h => absurd h List.not_mem_nil)
      ⟨hslugs, fun _ _ _ h => absurd h List.not_mem_nil⟩ now
  unset := ⟨rfl, rfl⟩
  migrated := isComplete_fresh.migrate_eq

/-- **An emptied store is as good as a new one**, at any moment in the life of a store: behind any
migrations and calls all migrations are applied, and then the store is called, emptied and migrated
again in any order. To empty it does not fail. From there, calls answer what they answer on a new
store, whatever they are; with other ids and at other times they answer the same up to these. Every
slug name is free again, the site setting is unset, and migrating changes nothing. -/
theorem cleanup_asNew (steps : List Step) (uses : List Use) :
    ∃ s', ((afterSteps steps).migrate.2.afterUses uses).cleanup = (.ok (), s') ∧ s'.IsAsNew := by
  obtain ⟨s₀, hmigrate, h₀, happlied, -⟩ := (isMigrated_afterSteps steps).migrateUp none
  have hcomplete : s₀.IsComplete :=
    ⟨h₀, fun t => (h₀.tables t).mpr (happlied ▸ t.mem_all)⟩
  have hbehind : (afterSteps steps).migrate.2 = s₀ := congrArg Prod.snd hmigrate
  rw [hbehind]
  have hused := hcomplete.afterUses uses
  exact ⟨fresh, hused.cleanup_eq hused.exist, isAsNew_fresh⟩

/-- The next id, an hour later. -/
def nextId : Renaming where
  id := Equiv.swap "t1" "t2"
  time _ := ⟨⟨1970, 1, 1, 1, 0, 0, 0, 0⟩, by decide⟩
  generated := {"t1"}
  readings := {.epoch}
  id_empty := by decide
  id_zero := by decide
  id_le := by
    rintro _ rfl _ rfl
    simp
  notAfter_time := by
    rintro _ rfl _ rfl
    rw [Time.Timestamp.notAfter_refl, Time.Timestamp.notAfter_refl]

/-- A store with a deleted tag is emptied: the tag is stored anew under the next id, as it would be
under the first one in a new store. -/
theorem cleanup_asNew_goDeleted :
    ∃ s', ((afterSteps []).migrate.2.afterUses (goDeleted.map fun call => .call call.2)).cleanup =
        (.ok (), s') ∧
      (∃ s'', s'.addTags ["t2"] (nextId.time .epoch) [named "go"] =
        (.ok [(named "go").toTag "t2" (nextId.time .epoch)], s'')) ∧
      nextId.AnswersAlike
        [⟨_, .addTags ["t1"] .epoch [named "go"]⟩, ⟨_, .read (.tagById "t1" true)⟩] fresh s' := by
  obtain ⟨s', hcleanup, hnew⟩ := cleanup_asNew [] (goDeleted.map fun call => .call call.2)
  refine ⟨s', hcleanup, ⟨_, hnew.free ["t2"] _ [named "go"] rfl (by decide) (by decide)⟩,
    hnew.alike nextId _ ?_⟩
  rintro call (_ | ⟨_, _ | ⟨_, ⟨⟩⟩⟩)
  · rintro write ⟨⟩ id hid
    exact ⟨List.mem_singleton.mp hid, rfl⟩
  · rintro write ⟨⟩

end Store

end TagTimeline
