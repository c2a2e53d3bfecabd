import TagTimeline.Files.Directory
import TagTimeline.Json.Writer

/-!
# Database Files

How a database is kept in a file: as the text of a JSON document with a member for each table,
which holds the table's rows and the names of its indexes, and one for the migrations that have been
applied. A table that does not exist is `null`.

## Main results

* `FileContent.toText` and `FileContent.ofText` — a file's content as a text and back.
-/

namespace TagTimeline

open Json

namespace TableName

/-- The table with a name. -/
def ofName? (name : String) : Option TableName := all.find? fun table => table.name == name

end TableName

namespace Table

/-- A table as a document. -/
def toDocument {Row : Type} (encode : Row → Document) (table : Table Row) : Document :=
  .record [("rows", .array (table.rows.map encode)), ("indexes", .array (table.indexes.map .text))]

/-- The table in a document. -/
def ofDocument? {Row : Type} (decode : Document → Option Row) (document : Document) :
    Option (Table Row) := do
  let fields ← document.record? ["rows", "indexes"]
  return {
    rows := ← fields.required? "rows" (Document.list? decode)
    indexes := ← fields.required? "indexes" (Document.list? Document.text?) }

end Table

namespace Store

/-- The name of the member for the migrations that have been applied. -/
def appliedField : String := "applied"

/-- A store as a document. -/
def toDocument (store : Store) : Document :=
  .record
    [(TableName.tag.name, .optional (Table.toDocument Tag.toDocument) store.tags),
     (TableName.revision.name, .optional (Table.toDocument Revision.toDocument) store.revisions),
     (TableName.activity.name, .optional (Table.toDocument Activity.toDocument) store.activities),
     (TableName.siteSettings.name,
       .optional (Table.toDocument SiteSettings.toDocument) store.settings),
     (appliedField, .array (store.applied.map fun table => .text table.name))]

/-- The store in a document. -/
def ofDocument? (document : Document) : Option Store := do
  let fields ← document.record? (TableName.all.map TableName.name ++ [appliedField])
  return {
    tags := ← fields.optional? TableName.tag.name (Table.ofDocument? Tag.ofDocument?)
    revisions :=
      ← fields.optional? TableName.revision.name (Table.ofDocument? Revision.ofDocument?)
    activities :=
      ← fields.optional? TableName.activity.name (Table.ofDocument? Activity.ofDocument?)
    settings :=
      ← fields.optional? TableName.siteSettings.name (Table.ofDocument? SiteSettings.ofDocument?)
    applied :=
      ← fields.required? appliedField
          (Document.list? fun d => d.text?.bind TableName.ofName?) }

end Store

namespace FileContent

/-- **A file's content as a text.** -/
def toText : FileContent → String
  | .text content => content
  | .database store => store.toDocument.toText

/-- **The content of a file with a text**: a database if the text is one. -/
def ofText (text : String) : FileContent :=
  match (Document.read? text).bind Store.ofDocument? with
  | some store => .database store
  | none => .text text

end FileContent

end TagTimeline
