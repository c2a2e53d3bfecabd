import TagTimeline.Proofs.Store.Call
import TagTimeline.Store.Migration

/-!
# The Schema under Calls

Which tables there are, with which indexes, and which migrations are recorded. No call of a client
touches any of it: a statement exchanges the rows of a table that exists. A read of a repository
finds its table or fails with the store, whatever it asks for.

## Main results

* `Call.sameSchema_run` — calls leave the schema.
* `Read.answer_of_hasTable`, `Read.answer_of_missing` — when the reads of a repository work.
-/

namespace TagTimeline

/-- The rows of a table. -/
abbrev TableName.Row : TableName → Type
  | .tag => Tag
  | .revision => Revision
  | .activity => Activity
  | .siteSettings => SiteSettings

namespace Store

/-- **A table by its name**, if it exists. -/
def tableAt (s : Store) : (t : TableName) → Option (Table t.Row)
  | .tag => s.tags
  | .revision => s.revisions
  | .activity => s.activities
  | .siteSettings => s.settings

/-- A table that is there by its name exists. -/
theorem hasTable_eq (s : Store) (t : TableName) : s.hasTable t = (s.tableAt t).isSome := by
  cases t <;> rfl

/-- The indexes of a table are those of the table by its name. -/
theorem indexesOf_eq (s : Store) (t : TableName) :
    s.indexesOf t = ((s.tableAt t).map Table.indexes).getD [] := by
  cases t <;> rfl

/-- A store is its tables and the record of its migrations. -/
theorem ext_tableAt {s s' : Store} (htables : ∀ t, s.tableAt t = s'.tableAt t)
    (happlied : s.applied = s'.applied) : s = s' := by
  obtain ⟨tags, revisions, activities, settings, applied⟩ := s
  obtain rfl : tags = s'.tags := htables .tag
  obtain rfl : revisions = s'.revisions := htables .revision
  obtain rfl : activities = s'.activities := htables .activity
  obtain rfl : settings = s'.settings := htables .siteSettings
  obtain rfl : applied = s'.applied := happlied
  rfl

/-- **That two stores have the same schema**: the same tables with the same indexes, and the same
record of migrations. -/
structure SameSchema (s s' : Store) : Prop where
  tables : ∀ t, (s'.tableAt t).map Table.indexes = (s.tableAt t).map Table.indexes
  applied : s'.applied = s.applied

namespace SameSchema

/-- A store has its own schema. -/
theorem refl (s : Store) : s.SameSchema s := ⟨fun _ => rfl, rfl⟩

/-- Stores with the schema of a third have the same. -/
theorem trans {s s' s'' : Store} (h : s.SameSchema s') (h' : s'.SameSchema s'') :
    s.SameSchema s'' :=
  ⟨fun t => (h'.tables t).trans (h.tables t), h'.applied.trans h.applied⟩

variable {s s' : Store}

/-- Stores of one schema have the same tables. -/
theorem hasTable (h : s.SameSchema s') (t : TableName) : s'.hasTable t = s.hasTable t := by
  have htable := congrArg Option.isSome (h.tables t)
  rw [Option.isSome_map, Option.isSome_map] at htable
  rw [hasTable_eq, hasTable_eq, htable]

/-- Stores of one schema have the same indexes. -/
theorem indexesOf (h : s.SameSchema s') (t : TableName) : s'.indexesOf t = s.indexesOf t := by
  rw [indexesOf_eq, indexesOf_eq, h.tables t]

end SameSchema

/-- **Rows of a table by name**: their table is the one of that name, and exchanging it leaves all
other tables and the record of migrations. -/
class StoredByName (Row : Type) [Stored Row] : Prop where
  /-- Exchanging rows leaves the schema. -/
  sameSchema_withRows (s : Store) (rows : List Row) : s.SameSchema (s.withRows rows)
  /-- The table is there exactly if there is one of its name. -/
  isSome_table? (s : Store) : (s.table? Row).isSome = s.hasTable (Stored.tableName Row)

/-- Exchanging the rows of a table that may exist leaves its indexes. -/
theorem map_indexes_withRows {Row : Type} (table : Option (Table Row)) (rows : List Row) :
    (table.map fun table => { table with rows := rows }).map Table.indexes =
      table.map Table.indexes := by
  cases table <;> rfl

instance : StoredByName Tag where
  sameSchema_withRows s rows :=
    ⟨fun
      | .tag => map_indexes_withRows s.tags rows
      | .revision | .activity | .siteSettings => rfl, rfl⟩
  isSome_table? _ := rfl

instance : StoredByName Revision where
  sameSchema_withRows s rows :=
    ⟨fun
      | .revision => map_indexes_withRows s.revisions rows
      | .tag | .activity | .siteSettings => rfl, rfl⟩
  isSome_table? _ := rfl

instance : StoredByName Activity where
  sameSchema_withRows s rows :=
    ⟨fun
      | .activity => map_indexes_withRows s.activities rows
      | .tag | .revision | .siteSettings => rfl, rfl⟩
  isSome_table? _ := rfl

instance : StoredByName SiteSettings where
  sameSchema_withRows s rows :=
    ⟨fun
      | .siteSettings => map_indexes_withRows s.settings rows
      | .tag | .revision | .activity => rfl, rfl⟩
  isSome_table? _ := rfl

section

variable {Row α : Type} [Stored Row] [StoredByName Row] {s : Store}

/-- There are rows exactly if there is a table. -/
theorem exists_rows?_iff :
    (∃ rows, s.rows? Row = some rows) ↔ s.hasTable (Stored.tableName Row) = true := by
  have htable : (s.table? Row).isSome = s.hasTable (Stored.tableName Row) :=
    StoredByName.isSome_table? s
  rw [← htable, Option.isSome_iff_exists, rows?]
  simp only [Option.map_eq_some_iff]
  constructor
  · rintro ⟨_, table, htable, _⟩
    exact ⟨table, htable⟩
  · rintro ⟨table, htable⟩
    exact ⟨_, table, htable, rfl⟩

/-- There are no rows exactly if there is no table. -/
theorem rows?_eq_none_iff :
    s.rows? Row = none ↔ s.hasTable (Stored.tableName Row) = false := by
  have htable : (∃ rows, s.rows? Row = some rows) ↔ _ := exists_rows?_iff
  rw [← Bool.not_eq_true, ← htable, Option.eq_none_iff_forall_not_mem]
  simp

/-- **A statement leaves the schema**, carried out or not. -/
theorem sameSchema_write (s : Store) (context : String) (statement : Statement Row α) :
    s.SameSchema (s.write context statement).2 := by
  cases hrows : s.rows? Row with
  | none =>
      rw [write_of_missing hrows]
      exact SameSchema.refl s
  | some rows =>
      rw [write_eq hrows]
      cases statement rows with
      | error failure => exact SameSchema.refl s
      | ok result => exact StoredByName.sameSchema_withRows s result.2

end

section

variable (Row : Type) {α : Type} [Stored Row] [StoredByName Row] {s : Store}

/-- **A read of a table that exists** works. -/
theorem select_of_hasTable (h : s.hasTable (Stored.tableName Row) = true) (context : String)
    (query : List Row → α) : ∃ a, s.select context query = .ok a := by
  obtain ⟨rows, hrows⟩ := exists_rows?_iff.mpr h
  exact ⟨query rows, select_ok_iff.mpr ⟨rows, hrows, rfl⟩⟩

/-- **A read of a table that does not exist** is a failure of the store. -/
theorem select_of_missing (h : s.hasTable (Stored.tableName Row) = false) (context : String)
    (query : List Row → α) : ∃ why, s.select context query = .error (.database why) := by
  have htable : s.table? Row = none := Option.map_eq_none_iff.mp (rows?_eq_none_iff.mpr h)
  have hselect : s.select context query = .error (missing Row context) := by rw [select, htable]
  exact ⟨_, hselect⟩

end

/-- Making the row of settings leaves the schema. -/
theorem sameSchema_getOrCreateSettings (s : Store) (requiredTag : Bool) (now : Time.Timestamp) :
    s.SameSchema (s.getOrCreateSettings requiredTag now).2 := by
  rw [getOrCreateSettings]
  cases s.findSettings with
  | error e => exact SameSchema.refl s
  | ok row? =>
      cases row? with
      | none => exact sameSchema_write s _ _
      | some row => exact SameSchema.refl s

/-- Setting the setting leaves the schema. -/
theorem sameSchema_setRequiredTag (s : Store) (requiredTag : Bool)
    (made changed : Time.Timestamp) :
    s.SameSchema (s.setRequiredTag requiredTag made changed).2 := by
  have hfirst := s.sameSchema_getOrCreateSettings requiredTag made
  rw [setRequiredTag]
  cases hcreate : s.getOrCreateSettings requiredTag made with
  | mk answer s' =>
      rw [hcreate] at hfirst
      cases answer with
      | error e => exact hfirst
      | ok row => exact hfirst.trans (sameSchema_write s' _ _)

end Store

namespace TagWrite

/-- A write of tags leaves the schema. -/
theorem sameSchema_run (write : TagWrite) (s : Store) : s.SameSchema (write.run s).2 := by
  cases hrows : s.rows? Tag with
  | none =>
      rw [write.snd_run_of_missing hrows]
      exact Store.SameSchema.refl s
  | some rows =>
      rcases write.run_cases hrows with ⟨-, hrun⟩ | ⟨-, e, hrun⟩
      · rw [hrun]
        exact Store.StoredByName.sameSchema_withRows s _
      · rw [hrun]
        exact Store.SameSchema.refl s

end TagWrite

namespace Call

/-- **Calls leave the schema**, whatever they do to rows. -/
theorem sameSchema_run {α : Type} (call : Call α) (s : Store) :
    s.SameSchema (call.run s).2 := by
  cases hwrite : call.onTags? with
  | some write =>
      have hrun : (call.run s).2 = (write.run s).2 := congrArg Prod.snd (unanswered_run hwrite s)
      rw [hrun]
      exact write.sameSchema_run s
  | none =>
      cases call with
      | read lookUp =>
          rw [run_read]
          exact Store.SameSchema.refl s
      | catalogUpdateAttribute =>
          rw [run_catalogUpdateAttribute hwrite]
          exact Store.SameSchema.refl s
      | createActivity | cancelActivity | createRevision => exact Store.sameSchema_write s _ _
      | getOrCreateSettings requiredTag now =>
          exact s.sameSchema_getOrCreateSettings requiredTag now
      | setRequiredTag requiredTag made changed =>
          exact s.sameSchema_setRequiredTag requiredTag made changed
      | addTags | removeTag | updateTag | updateQuestionCount | updateSynonyms | updateAttribute
      | catalogAddTags | catalogRemoveTag | catalogUpdateTag | catalogUpdateQuestionCount
      | catalogUpdateSynonyms => cases hwrite

end Call

namespace Read

variable {α : Type} {s : Store}

/-- **The table that a read of a repository asks**; the reads of the catalog and of timelines are
none of a repository. -/
def table? : Read α → Option TableName
  | tagsByIds _ _ | tagsByNames _ _ | tagBySlugName _ _ | tagById _ _ | tagByIdAnyStatus _ _
  | tagsCompleting _ _ _ _ | recommendedTags _ | reservedTags _ | tagsWhere _ _
  | tagPage _ _ _ _ _ => some .tag
  | findRevision _ | getRevision _ | revisionsOf _ => some .revision
  | activitiesOf _ _ => some .activity
  | findSettings | setting .stored => some .siteSettings
  | catalog _ _ | timeline _ _ | diff _ _ | setting _ => none

/-- The revision that a read cannot do without. -/
def revision? : Read α → Option String
  | getRevision id => some id
  | _ => none

/-- **One question to a table.** -/
def IsQuestion (Row : Type) [Stored Row] (ask : Store → Except ServiceError α) : Prop :=
  ∃ (context : String) (query : List Row → α), ∀ s, ask s = s.select context query

/-- **That a read asks a table** one question, and makes its answer of what it is told. -/
def Asks (Row : Type) [Stored Row] (read : Read α) : Prop :=
  ∃ (Told : Type) (ask : Store → Except ServiceError Told) (reply : Told → Except ServiceError α),
    IsQuestion Row ask ∧ (∀ s, read.answer s = (ask s).bind reply) ∧
    ∀ told, (∃ a, reply told = .ok a) ∨
      ∃ id, read.revision? = some id ∧ reply told = .error (.revisionNotFound id)

section

variable {Row : Type} [Stored Row] {read : Read α}

/-- What is told may be the answer. -/
theorem IsQuestion.asks (h : IsQuestion Row read.answer) : read.Asks Row :=
  ⟨α, read.answer, .ok, h, fun s => (bind_pure (read.answer s)).symm, fun a => .inl ⟨a, rfl⟩⟩

variable [Store.StoredByName Row]

/-- A read of a table that exists works; only a revision that is not stored cannot be got. -/
theorem Asks.of_hasTable (h : read.Asks Row) (ht : s.hasTable (Stored.tableName Row) = true) :
    (∃ a, read.answer s = .ok a) ∨
      ∃ id, read.revision? = some id ∧ read.answer s = .error (.revisionNotFound id) := by
  obtain ⟨Told, ask, reply, ⟨context, query, hask⟩, hanswer, hreply⟩ := h
  obtain ⟨told, hselect⟩ := Store.select_of_hasTable Row ht context query
  rw [hanswer, hask, hselect]
  exact hreply told

/-- A read of a table that does not exist fails with the store. -/
theorem Asks.of_missing (h : read.Asks Row) (ht : s.hasTable (Stored.tableName Row) = false) :
    ∃ why, read.answer s = .error (.database why) := by
  obtain ⟨Told, ask, reply, ⟨context, query, hask⟩, hanswer, -⟩ := h
  obtain ⟨why, hselect⟩ := Store.select_of_missing Row ht context query
  rw [hanswer, hask, hselect]
  exact ⟨why, rfl⟩

end

/-- Reading tags is one question to their table. -/
theorem isQuestion_readTags (context : String) (query : List Tag → List Tag)
    (tagRequired : Bool) : IsQuestion Tag (Store.readTags context query tagRequired) :=
  ⟨_, _, fun _ => rfl⟩

/-- Reading a tag is one question to their table. -/
theorem isQuestion_readTag (context : String) (query : List Tag → Option Tag)
    (tagRequired : Bool) : IsQuestion Tag (Store.readTag context query tagRequired) :=
  ⟨_, _, fun _ => rfl⟩

/-- Reading a page of tags is one question to their table. -/
theorem isQuestion_tagPage (page pageSize : UInt64) (filter : TagFilter) (sort : TagSort)
    (tagRequired : Bool) :
    IsQuestion Tag (Store.tagPage page pageSize filter sort tagRequired) :=
  ⟨_, _, fun _ => rfl⟩

/-- That a read asks the table of a name. -/
def AsksTable (read : Read α) : TableName → Prop
  | .tag => read.Asks Tag
  | .revision => read.Asks Revision
  | .activity => read.Asks Activity
  | .siteSettings => read.Asks SiteSettings

/-- **Every read of a repository asks its table.** -/
theorem asksTable {read : Read α} {t : TableName} (h : read.table? = some t) :
    read.AsksTable t := by
  cases read with
  | tagsByIds | tagsByNames | tagsCompleting | recommendedTags | reservedTags | tagsWhere =>
      cases h
      exact IsQuestion.asks (isQuestion_readTags _ _ _)
  | tagBySlugName | tagById | tagByIdAnyStatus =>
      cases h
      exact IsQuestion.asks (isQuestion_readTag _ _ _)
  | tagPage =>
      cases h
      exact IsQuestion.asks (isQuestion_tagPage _ _ _ _ _)
  | findRevision | revisionsOf | activitiesOf | findSettings =>
      cases h
      exact IsQuestion.asks ⟨_, _, fun _ => rfl⟩
  | getRevision id =>
      cases h
      refine ⟨_, Store.findRevision id, Session.expectRevision id, ⟨_, _, fun _ => rfl⟩,
        fun s => ?_, ?_⟩
      · rw [answer, Store.getRevision]
        rcases s.findRevision id with e | _ | revision <;> rfl
      · rintro (_ | revision)
        · exact .inr ⟨id, rfl, rfl⟩
        · exact .inl ⟨revision, rfl⟩
  | setting source =>
      cases source with
      | stored =>
          cases h
          exact ⟨_, Store.findSettings, fun row? => .ok (row?.any SiteSettings.requiredTag),
            ⟨_, _, fun _ => rfl⟩, fun _ => rfl, fun _ => .inl ⟨_, rfl⟩⟩
      | fixed | failing => cases h
  | catalog | timeline | diff => cases h

/-- **A read of a repository works** if its table exists; only a revision that is not stored cannot
be got. -/
theorem answer_of_hasTable {read : Read α} {t : TableName} (h : read.table? = some t)
    (ht : s.hasTable t = true) :
    (∃ a, read.answer s = .ok a) ∨
      ∃ id, read.revision? = some id ∧ read.answer s = .error (.revisionNotFound id) := by
  have hasks := asksTable h
  cases t with
  | tag | revision | activity | siteSettings => exact Asks.of_hasTable hasks ht

/-- **A read of a repository fails with the store** if its table does not exist. -/
theorem answer_of_missing {read : Read α} {t : TableName} (h : read.table? = some t)
    (ht : s.hasTable t = false) : ∃ why, read.answer s = .error (.database why) := by
  have hasks := asksTable h
  cases t with
  | tag | revision | activity | siteSettings => exact Asks.of_missing hasks ht

end Read

end TagTimeline
