import TagTimeline.Activity.Basic
import TagTimeline.Error
import TagTimeline.Revision.Basic
import TagTimeline.Site.Settings
import TagTimeline.Tag.Basic

/-!
# The Store

What the site keeps: four tables, each of which exists once its migration has made it, and the
record of the migrations that have been applied. A table keeps its rows in the order in which they
were inserted, and the names of its indexes.

A statement works on one table. A read of a table that does not exist fails. A write that fails,
because the table does not exist or because the statement is refused, leaves the whole store as it
was: `Store.write` is the only way in which rows change.

## Main results

* `Store.select_ok_iff` — a read succeeds exactly if its table exists.
* `Store.write_of_error` — a statement that fails changes nothing.
-/

namespace TagTimeline

/-- **The tables of the store**, which are also its migrations, in their order. -/
inductive TableName where
  | tag
  | revision
  | activity
  | siteSettings
  deriving DecidableEq, Repr

namespace TableName

/-- Every table, in the order of the migrations. -/
def all : List TableName := [tag, revision, activity, siteSettings]

/-- The name of a table in the store. -/
def name : TableName → String
  | tag => "tag"
  | revision => "revision"
  | activity => "activity"
  | siteSettings => "site_settings"

/-- The indexes of a table. -/
def indexes : TableName → List String
  | tag => ["idx_tag_main_tag_id", "idx_tag_status_question_count"]
  | revision => ["idx_revision_object_id"]
  | activity => ["idx_activity_original_object_created", "idx_activity_user_id"]
  | siteSettings => []

end TableName

/-- **A table**: its rows, the first inserted first, and the names of its indexes. -/
structure Table (Row : Type) where
  rows : List Row
  indexes : List String
  deriving DecidableEq

namespace Table

/-- A table as it is made. -/
def empty {Row : Type} : Table Row := ⟨[], []⟩

instance {Row : Type} : Inhabited (Table Row) := ⟨empty⟩

end Table

/-- **Everything the site keeps.** -/
structure Store where
  tags : Option (Table Tag)
  revisions : Option (Table Revision)
  activities : Option (Table Activity)
  settings : Option (Table SiteSettings)
  /-- The migrations that have been applied, the first applied first. -/
  applied : List TableName
  deriving DecidableEq

/-- **Rows that the store has a table for.** -/
class Stored (Row : Type) where
  /-- Which table it is. -/
  tableName : TableName
  /-- The table, if it exists. -/
  table? : Store → Option (Table Row)
  /-- The store with the table exchanged. -/
  withTable : Store → Option (Table Row) → Store

instance : Stored Tag where
  tableName := .tag
  table? s := s.tags
  withTable s t := { s with tags := t }

instance : Stored Revision where
  tableName := .revision
  table? s := s.revisions
  withTable s t := { s with revisions := t }

instance : Stored Activity where
  tableName := .activity
  table? s := s.activities
  withTable s t := { s with activities := t }

instance : Stored SiteSettings where
  tableName := .siteSettings
  table? s := s.settings
  withTable s t := { s with settings := t }

/-- What an operation answers, and the store after it. -/
abbrev Outcome (α : Type) := Except ServiceError α × Store

/-- A statement on the rows of one table: refused, or an answer and the rows after it. -/
abbrev Statement (Row α : Type) := List Row → Except StatementFailure (α × List Row)

namespace Store

/-- A store before any migration. -/
def empty : Store := ⟨none, none, none, none, []⟩

instance : Inhabited Store := ⟨empty⟩

/-- The table of some rows, if it exists. -/
def table? (Row : Type) [Stored Row] (s : Store) : Option (Table Row) := Stored.table? s

/-- The rows of a table, if it exists. -/
def rows? (Row : Type) [Stored Row] (s : Store) : Option (List Row) :=
  (s.table? Row).map Table.rows

/-- The failure of a statement in the words of the operation that made it. -/
def failed (context : String) (failure : StatementFailure) : ServiceError :=
  .storage context failure.message

/-- That a table does not exist. -/
def missing (Row : Type) [Stored Row] (context : String) : ServiceError :=
  failed context (.missingTable (Stored.tableName Row).name)

/-- **Reads a table.** -/
def select {Row α : Type} [Stored Row] (context : String) (query : List Row → α) (s : Store) :
    Except ServiceError α :=
  match s.table? Row with
  | none => .error (missing Row context)
  | some table => .ok (query table.rows)

/-- **Runs a statement that writes a table.** -/
def write {Row α : Type} [Stored Row] (context : String) (statement : Statement Row α)
    (s : Store) : Outcome α :=
  match s.table? Row with
  | none => (.error (missing Row context), s)
  | some table =>
      match statement table.rows with
      | .error failure => (.error (failed context failure), s)
      | .ok (answer, rows) => (.ok answer, Stored.withTable s (some { table with rows := rows }))

/-- A read succeeds exactly if its table exists, and answers from its rows. -/
theorem select_ok_iff {Row α : Type} [Stored Row] {context : String} {query : List Row → α}
    {s : Store} {a : α} :
    select context query s = .ok a ↔ ∃ rows, rows? Row s = some rows ∧ query rows = a := by
  unfold select rows?
  cases s.table? Row <;> simp

/-- A statement that fails leaves the store as it was. -/
theorem write_of_error {Row α : Type} [Stored Row] {context : String}
    {statement : Statement Row α} {s : Store} {e : ServiceError}
    (h : (write context statement s).1 = .error e) : (write context statement s).2 = s := by
  unfold write at *
  cases ht : s.table? Row with
  | none => rfl
  | some table =>
      simp only [ht] at h ⊢
      cases hs : statement table.rows with
      | error failure => rfl
      | ok result => simp [hs] at h

end Store

namespace Statement

/-- Inserts a row unless another row stands in its way. -/
def insert {Row : Type} (clash? : Row → Row → Option StatementFailure) (row : Row) :
    Statement Row Row := fun rows =>
  match rows.findSome? (clash? row) with
  | some failure => .error failure
  | none => .ok (row, rows ++ [row])

/-- Inserts rows one after the other, all or none of them. -/
def insertAll {Row : Type} (clash? : Row → Row → Option StatementFailure) :
    List Row → Statement Row Unit
  | [], rows => .ok ((), rows)
  | row :: more, rows =>
      match insert clash? row rows with
      | .error failure => .error failure
      | .ok (_, rows) => insertAll clash? more rows

/-- Changes the rows that meet a condition. -/
def update {Row : Type} (selected : Row → Bool) (change : Row → Row) : Statement Row Unit :=
  fun rows => .ok ((), rows.map fun row => if selected row then change row else row)

/-- Erases every row. -/
def clear {Row : Type} : Statement Row Unit := fun _ => .ok ((), [])

end Statement

namespace Tag

/-- Two tags cannot have the same id or the same slug name. -/
def clash? (new old : Tag) : Option StatementFailure :=
  if old.id = new.id then some (.takenKey TableName.tag.name "id")
  else if old.slugName = new.slugName then some (.takenKey TableName.tag.name "slug_name")
  else none

end Tag

namespace Activity

/-- Two activities cannot have the same id. -/
def clash? (new old : Activity) : Option StatementFailure :=
  if old.id = new.id then some (.takenKey TableName.activity.name "id") else none

end Activity

namespace Revision

/-- Two revisions cannot have the same id. -/
def clash? (new old : Revision) : Option StatementFailure :=
  if old.id = new.id then some (.takenKey TableName.revision.name "id") else none

end Revision

namespace SiteSettings

/-- Two rows of settings cannot have the same id. -/
def clash? (new old : SiteSettings) : Option StatementFailure :=
  if old.id = new.id then some (.takenKey TableName.siteSettings.name "id") else none

end SiteSettings

end TagTimeline
