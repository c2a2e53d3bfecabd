import Mathlib.Data.Set.Defs
import Mathlib.Logic.Equiv.Defs
import TagTimeline.Proofs.Store.Call

/-!
# Other Names and Times

What an id is called, and what the clocks read, does not matter. If every id is given another name
and every time another value, in such a way that ids that are generated keep their order and times
keep theirs, then what is stored, what is asked for and what is answered change by these names and
times and by nothing else.

## Main results

* `Renaming` — other names for ids, and other times.
* `Renaming.select_store`, `Renaming.write_store` — statements on a renamed store.
* `Renaming.byIds_map` and its companions — queries of renamed tags.
-/

namespace TagTimeline

open Time

/-- **Other names for ids, and other times.** No two ids get the same name, those that are generated
keep their order, and what stands for no id stays; times that clocks read keep their order. -/
structure Renaming where
  id : Equiv.Perm String
  time : Timestamp → Timestamp
  /-- The ids that are generated. -/
  generated : Set String
  /-- The times that clocks read. -/
  readings : Set Timestamp
  id_empty : id "" = ""
  id_zero : id "0" = "0"
  id_le : ∀ a ∈ generated, ∀ b ∈ generated, id a ≤ id b ↔ a ≤ b
  notAfter_time : ∀ a ∈ readings, ∀ b ∈ readings, (time a).notAfter (time b) = a.notAfter b

namespace Renaming

variable (r : Renaming)

/-! ### What is stored -/

/-- A tag under its other name. -/
def tag (t : Tag) : Tag :=
  { t with
    id := r.id t.id
    mainTagId := t.mainTagId.map r.id
    revisionId := r.id t.revisionId
    createdAt := r.time t.createdAt
    updatedAt := r.time t.updatedAt }

/-- An activity under its other name. -/
def activity (a : Activity) : Activity :=
  { a with
    id := r.id a.id
    objectId := r.id a.objectId
    originalObjectId := r.id a.originalObjectId
    revisionId := a.revisionId.map r.id
    cancelledAt := a.cancelledAt.map r.time
    createdAt := r.time a.createdAt }

/-- A revision under its other name. -/
def revision (v : Revision) : Revision :=
  { v with id := r.id v.id, objectId := r.id v.objectId, createdAt := r.time v.createdAt }

/-- The settings at other times. -/
def settings (row : SiteSettings) : SiteSettings :=
  { row with createdAt := r.time row.createdAt, updatedAt := row.updatedAt.map r.time }

/-- A table with every row changed. -/
def table {Row : Type} (change : Row → Row) (t : Table Row) : Table Row :=
  { t with rows := t.rows.map change }

/-- **A store under other names.** -/
def store (s : Store) : Store :=
  { s with
    tags := s.tags.map (table r.tag)
    revisions := s.revisions.map (table r.revision)
    activities := s.activities.map (table r.activity)
    settings := s.settings.map (table r.settings) }

end Renaming

/-- **Rows that are renamed with their store.** -/
class Renamable (Row : Type) [Stored Row] where
  /-- A row under its other name. -/
  row : Renaming → Row → Row
  /-- The table of a renamed store is the renamed table. -/
  table?_store (r : Renaming) (s : Store) :
    (r.store s).table? Row = (s.table? Row).map (Renaming.table (row r))
  /-- Exchanging a table commutes with renaming. -/
  withTable_store (r : Renaming) (s : Store) (t : Table Row) :
    Stored.withTable (r.store s) (some (Renaming.table (row r) t)) =
      r.store (Stored.withTable s (some t))

instance : Renamable Tag where
  row := Renaming.tag
  table?_store _ _ := rfl
  withTable_store _ _ _ := rfl

instance : Renamable Revision where
  row := Renaming.revision
  table?_store _ _ := rfl
  withTable_store _ _ _ := rfl

instance : Renamable Activity where
  row := Renaming.activity
  table?_store _ _ := rfl
  withTable_store _ _ _ := rfl

instance : Renamable SiteSettings where
  row := Renaming.settings
  table?_store _ _ := rfl
  withTable_store _ _ _ := rfl

namespace Renaming

variable {r : Renaming} {s : Store}

/-! ### Statements -/

section

variable {Row α : Type} [Stored Row] [Renamable Row]

/-- **A read of a renamed store** answers what a read of the store answers, renamed. -/
theorem select_store {query query' : List Row → α} {answer : α → α}
    (h : ∀ rows, s.rows? Row = some rows →
      query' (rows.map (Renamable.row r)) = answer (query rows)) (context : String) :
    (r.store s).select context query' = (s.select context query).map answer := by
  rw [Store.select, Renamable.table?_store, Store.select]
  cases htable : s.table? Row with
  | none => rfl
  | some table =>
      have hrows : s.rows? Row = some table.rows := by rw [Store.rows?, htable]; rfl
      exact congrArg Except.ok (h table.rows hrows)

/-- **A statement on a renamed store** does what the statement does to the store, renamed. -/
theorem write_store {statement statement' : Statement Row α} {answer : α → α}
    (h : ∀ rows, s.rows? Row = some rows → statement' (rows.map (Renamable.row r)) =
      (statement rows).map (Prod.map answer (List.map (Renamable.row r)))) (context : String) :
    (r.store s).write context statement' =
      Prod.map (Except.map answer) r.store (s.write context statement) := by
  rw [Store.write, Renamable.table?_store, Store.write]
  cases htable : s.table? Row with
  | none => rfl
  | some table =>
      have hrows : s.rows? Row = some table.rows := by rw [Store.rows?, htable]; rfl
      have hstatement : statement' ((Renaming.table (Renamable.row r) table).rows) = _ :=
        h table.rows hrows
      simp only [Option.map_some, hstatement]
      cases statement table.rows with
      | error failure => rfl
      | ok result =>
          have htables := Renamable.withTable_store r s ⟨result.2, table.indexes⟩
          exact congrArg (Prod.mk _) htables

end

end Renaming

namespace Statement

variable {Row : Type} {clash? : Row → Row → Option StatementFailure} {change : Row → Row}

/-- Inserting a changed row among changed ones. -/
theorem insert_map {row : Row} (h : ∀ old, clash? (change row) (change old) = clash? row old)
    (rows : List Row) :
    insert clash? (change row) (rows.map change) =
      (insert clash? row rows).map (Prod.map change (List.map change)) := by
  have hclash : clash? (change row) ∘ change = clash? row := funext h
  rw [insert, insert, List.findSome?_map, hclash]
  cases rows.findSome? (clash? row) with
  | none => exact congrArg Except.ok (by rw [Prod.map, List.map_append]; rfl)
  | some failure => rfl

/-- Inserting several changed rows among changed ones. -/
theorem insertAll_map (h : ∀ row old, clash? (change row) (change old) = clash? row old)
    (new rows : List Row) :
    insertAll clash? (new.map change) (rows.map change) =
      (insertAll clash? new rows).map (Prod.map (fun _ => ()) (List.map change)) := by
  induction new generalizing rows with
  | nil => rfl
  | cons row more ih =>
      rw [List.map_cons, insertAll, insertAll, insert_map (h row)]
      cases insert clash? row rows with
      | error failure => rfl
      | ok result => exact ih result.2

/-- Changing changed rows. -/
theorem update_map {selected selected' : Row → Bool} {update' update : Row → Row}
    (hselected : ∀ row, selected' (change row) = selected row)
    (hupdate : ∀ row, update' (change row) = change (update row)) (rows : List Row) :
    Statement.update selected' update' (rows.map change) =
      (Statement.update selected update rows).map (Prod.map (fun _ => ()) (List.map change)) := by
  refine congrArg (fun rows => Except.ok ((), rows)) ?_
  rw [List.map_map, List.map_map]
  refine List.map_congr_left fun row _ => ?_
  simp only [Function.comp_apply, hselected, hupdate]
  split <;> rfl

end Statement

namespace Renaming

variable {r : Renaming}

/-! ### Names and times -/

/-- Two ids are the same exactly if their names are. -/
@[simp] theorem id_inj (r : Renaming) {a b : String} : r.id a = r.id b ↔ a = b :=
  r.id.injective.eq_iff

/-- Nothing else is named as what stands for no id. -/
@[simp] theorem id_eq_empty (r : Renaming) {a : String} : r.id a = "" ↔ a = "" :=
  ⟨fun h => r.id.injective (h.trans r.id_empty.symm), fun h => h ▸ r.id_empty⟩

/-- Nothing else is named as what stands for no main tag. -/
@[simp] theorem id_eq_zero (r : Renaming) {a : String} : r.id a = "0" ↔ a = "0" :=
  ⟨fun h => r.id.injective (h.trans r.id_zero.symm), fun h => h ▸ r.id_zero⟩

/-- A name is among names exactly if its id is among their ids. -/
@[simp] theorem contains_map_id (r : Renaming) (ids : List String) (a : String) :
    (ids.map r.id).contains (r.id a) = ids.contains a := by
  rw [Bool.eq_iff_iff, List.contains_iff_mem, List.contains_iff_mem]
  exact List.mem_map_of_injective r.id.injective

/-- That an id is generated and a time is read from a clock. -/
def Knows (r : Renaming) (id : String) (time : Timestamp) : Prop :=
  id ∈ r.generated ∧ time ∈ r.readings

/-- **Rows keep their order by time and id.** -/
theorem orderedWith_map {a b : Timestamp} {idA idB : String} (ha : r.Knows idA a)
    (hb : r.Knows idB b) :
    (r.time a).orderedWith (r.time b) (r.id idA) (r.id idB) = a.orderedWith b idA idB := by
  rw [Bool.eq_iff_iff, Timestamp.orderedWith_iff, Timestamp.orderedWith_iff,
    r.notAfter_time a ha.2 b hb.2, r.notAfter_time b hb.2 a ha.2, r.id_le idA ha.1 idB hb.1]

/-! ### Queries -/

section

variable {Row : Type} {f : Row → Row}

/-- **Selecting and ordering changed rows** is selecting and ordering rows and changing them. -/
theorem mergeSort_filter_map {selected selected' : Row → Bool} {le : Row → Row → Bool}
    {rows : List Row} (hselected : ∀ row, selected' (f row) = selected row)
    (hle : ∀ a ∈ rows, ∀ b ∈ rows, le (f a) (f b) = le a b) :
    ((rows.map f).filter selected').mergeSort le =
      ((rows.filter selected).mergeSort le).map f := by
  have hfilter : selected' ∘ f = selected := funext hselected
  rw [List.filter_map, hfilter, List.map_mergeSort (s := le) fun a ha b hb =>
    (hle a (List.mem_of_mem_filter ha) b (List.mem_of_mem_filter hb)).symm]

/-- The first of changed rows that is selected. -/
theorem find?_map {selected selected' : Row → Bool}
    (hselected : ∀ row, selected' (f row) = selected row) (rows : List Row) :
    (rows.map f).find? selected' = (rows.find? selected).map f := by
  have hfind : selected' ∘ f = selected := funext hselected
  rw [List.find?_map, hfind]

/-- The first changed rows. -/
theorem limited_map (count : UInt64) (rows : List Row) :
    TagQuery.limited count (rows.map f) = (TagQuery.limited count rows).map f := by
  rw [TagQuery.limited, TagQuery.limited]
  split
  · exact List.map_take.symm
  · rfl

/-- Changed rows without the first ones. -/
theorem skipping_map (count : UInt64) (rows : List Row) :
    TagQuery.skipping count (rows.map f) = (TagQuery.skipping count rows).map f := by
  rw [TagQuery.skipping, TagQuery.skipping]
  split
  · exact List.map_drop.symm
  · rfl

end

/-- A filter with its ids under other names. -/
def filter (r : Renaming) (f : TagFilter) : TagFilter :=
  { f with
    id := f.id.map r.id
    mainTagId := f.mainTagId.map r.id
    revisionId := f.revisionId.map r.id }

/-- A field agrees under its other name. -/
theorem agrees_map (wanted : Option String) (value : String) :
    TagFilter.agrees (wanted.map r.id) (r.id value) = TagFilter.agrees wanted value := by
  cases wanted with
  | none => rfl
  | some w => simp [TagFilter.agrees]

/-- A field that may be absent agrees under its other name. -/
theorem agreesWithin_map (wanted value : Option String) :
    TagFilter.agreesWithin (wanted.map r.id) (value.map r.id) =
      TagFilter.agreesWithin wanted value := by
  cases wanted with
  | none => rfl
  | some w => cases value <;> simp [TagFilter.agreesWithin]

/-- **A filter accepts a tag under its other name.** -/
theorem accepts_map (f : TagFilter) (t : Tag) : (r.filter f).accepts (r.tag t) = f.accepts t := by
  simp only [TagFilter.accepts, filter, tag, agrees_map, agreesWithin_map]

/-- A tag can be paged through under its other name. -/
theorem pageable_map (f : TagFilter) (t : Tag) :
    TagQuery.pageable (r.filter f) (r.tag t) = TagQuery.pageable f t := by
  have hrest : ({ r.filter f with slugName := none } : TagFilter).accepts (r.tag t) =
      ({ f with slugName := none } : TagFilter).accepts t :=
    accepts_map { f with slugName := none } t
  have hsynonym : (r.tag t).isSynonym = t.isSynonym := Option.isSome_map
  rw [TagQuery.pageable, hrest, hsynonym]
  rfl

section

variable {rows : List Tag}

/-- The tags of a table have generated ids, and times read from clocks. -/
def KnowsTags (r : Renaming) (rows : List Tag) : Prop := ∀ t ∈ rows, r.Knows t.id t.createdAt

/-- **The standard order of tags** is that under their other names. -/
theorem heavierOrEqual_map (h : r.KnowsTags rows) :
    ∀ a ∈ rows, ∀ b ∈ rows,
      Tag.heavierOrEqual (r.tag a) (r.tag b) = Tag.heavierOrEqual a b := fun a ha b hb => by
  have hid : decide ((r.tag b).id ≤ (r.tag a).id) = decide (b.id ≤ a.id) :=
    decide_eq_decide.mpr (r.id_le b.id (h b hb).1 a.id (h a ha).1)
  rw [Tag.heavierOrEqual, hid]
  rfl

/-- **Every order of pages** is that under other names. -/
theorem apply_map (h : r.KnowsTags rows) (sort : TagSort) :
    sort.apply (rows.map r.tag) = (sort.apply rows).map r.tag := by
  cases sort with
  | unordered => rfl
  | popular | name => exact (List.map_mergeSort (f := r.tag) fun _ _ _ _ => rfl).symm
  | newest =>
      exact (List.map_mergeSort (f := r.tag) fun a ha b hb =>
        (r.notAfter_time b.createdAt (h b hb).2 a.createdAt (h a ha).2).symm).symm

/-- Tags are selected by their other names, and stay in order. -/
theorem byIds_map (h : r.KnowsTags rows) (ids : List String) :
    TagQuery.byIds (ids.map r.id) (rows.map r.tag) = (TagQuery.byIds ids rows).map r.tag :=
  mergeSort_filter_map (fun t => congrArg (t.isAvailable && ·) (r.contains_map_id ids t.id))
    (heavierOrEqual_map h)

/-- Tags are selected by their slug names, and stay in order. -/
theorem byNames_map (h : r.KnowsTags rows) (names : List String) :
    TagQuery.byNames names (rows.map r.tag) = (TagQuery.byNames names rows).map r.tag :=
  mergeSort_filter_map (fun _ => rfl) (heavierOrEqual_map h)

/-- The same tag is selected by its slug name. -/
theorem bySlugName?_map (slugName : String) (rows : List Tag) :
    TagQuery.bySlugName? slugName (rows.map r.tag) =
      (TagQuery.bySlugName? slugName rows).map r.tag :=
  find?_map (fun _ => rfl) rows

/-- Names are compared as their ids are. -/
theorem beq_id (a b : String) : (r.id a == r.id b) = (a == b) := by
  rw [Bool.eq_iff_iff, beq_iff_eq, beq_iff_eq, id_inj]

/-- The same available tag is selected by its other name. -/
theorem byId?_map (id : String) (rows : List Tag) :
    TagQuery.byId? (r.id id) (rows.map r.tag) = (TagQuery.byId? id rows).map r.tag :=
  find?_map (fun t => congrArg (t.isAvailable && ·) (beq_id t.id id)) rows

/-- The same tag is selected by its other name, whatever its status. -/
theorem byIdAnyStatus?_map (id : String) (rows : List Tag) :
    TagQuery.byIdAnyStatus? (r.id id) (rows.map r.tag) =
      (TagQuery.byIdAnyStatus? id rows).map r.tag :=
  find?_map (fun t => beq_id t.id id) rows

/-- The same tags complete a name. -/
theorem completions_map (name : String) (limit : UInt64) (hasReserved : Bool) (rows : List Tag) :
    TagQuery.completions name limit hasReserved (rows.map r.tag) =
      (TagQuery.completions name limit hasReserved rows).map r.tag := by
  have hsorted : ((rows.map r.tag).filter (TagQuery.completes name hasReserved)).mergeSort
      Tag.slugNotAfter =
      ((rows.filter (TagQuery.completes name hasReserved)).mergeSort Tag.slugNotAfter).map r.tag :=
    mergeSort_filter_map (fun _ => rfl) fun _ _ _ _ => rfl
  rw [TagQuery.completions, hsorted, limited_map]
  rfl

/-- The same tags are recommended. -/
theorem recommended_map (rows : List Tag) :
    TagQuery.recommended (rows.map r.tag) = (TagQuery.recommended rows).map r.tag :=
  mergeSort_filter_map (f := r.tag) (fun _ => rfl) fun _ _ _ _ => rfl

/-- The same tags are reserved. -/
theorem reserved_map (rows : List Tag) :
    TagQuery.reserved (rows.map r.tag) = (TagQuery.reserved rows).map r.tag :=
  mergeSort_filter_map (f := r.tag) (fun _ => rfl) fun _ _ _ _ => rfl

/-- The same tags pass a filter that has its ids under other names. -/
theorem filtered_map (f : TagFilter) (rows : List Tag) :
    TagQuery.filtered (r.filter f) (rows.map r.tag) = (TagQuery.filtered f rows).map r.tag := by
  rw [TagQuery.filtered, List.filter_map]
  refine congrArg (List.map r.tag) (congrArg (rows.filter ·) (funext fun t => ?_))
  exact congrArg (t.isAvailable && ·) (accepts_map f t)

/-- **The same tags are on a page**, in the same order, and as many in all. -/
theorem page_map (h : r.KnowsTags rows) (page pageSize : UInt64) (f : TagFilter) (sort : TagSort) :
    TagQuery.page page pageSize (r.filter f) sort (rows.map r.tag) =
      ((TagQuery.page page pageSize f sort rows).1.map r.tag,
        (TagQuery.page page pageSize f sort rows).2) := by
  have hpageable : TagQuery.pageable (r.filter f) ∘ r.tag = TagQuery.pageable f :=
    funext (pageable_map f)
  have hknown : r.KnowsTags (rows.filter (TagQuery.pageable f)) := fun t ht =>
    h t (List.mem_of_mem_filter ht)
  rw [TagQuery.page, List.filter_map, hpageable, apply_map hknown, TagQuery.cut, skipping_map,
    limited_map, List.length_map]
  rfl

end

/-- **The timeline of an object** has its order under other names. -/
theorem onTimeline_map {rows : List Activity} (h : ∀ a ∈ rows, r.Knows a.id a.createdAt)
    (objectId : String) (showVote : Bool) :
    Activity.onTimeline (r.id objectId) showVote (rows.map r.activity) =
      (Activity.onTimeline objectId showVote rows).map r.activity :=
  mergeSort_filter_map (f := r.activity)
    (fun a => congrArg (· && (showVote || !ActivityKind.voteCodes.contains a.activityType))
      (beq_id a.originalObjectId objectId))
    fun a ha b hb => orderedWith_map (h a ha) (h b hb)

/-- **The history of an object** has its order under other names. -/
theorem ofObject_map {rows : List Revision} (h : ∀ v ∈ rows, r.Knows v.id v.createdAt)
    (objectId : String) :
    Revision.ofObject (r.id objectId) (rows.map r.revision) =
      (Revision.ofObject objectId rows).map r.revision :=
  mergeSort_filter_map (f := r.revision) (fun v => beq_id v.objectId objectId)
    fun a ha b hb => orderedWith_map (h a ha) (h b hb)

end Renaming

end TagTimeline
