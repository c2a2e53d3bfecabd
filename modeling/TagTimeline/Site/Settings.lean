import TagTimeline.Time.Document

/-!
# Site Settings

The settings of the whole site, kept in one row: whether every question has to carry a tag.
-/

namespace TagTimeline

open Json Time

/-- **The settings of the site**, as they are stored. -/
structure SiteSettings where
  id : String
  /-- Whether every question has to carry a tag. -/
  requiredTag : Bool
  createdAt : Timestamp
  updatedAt : Option Timestamp
  deriving DecidableEq

namespace SiteSettings

/-- The id of the only row. -/
def siteId : String := "site"

/-- The names of the fields, in the order of declaration. -/
def fieldNames : List String := ["id", "required_tag", "created_at", "updated_at"]

/-- The settings as a document. -/
def toDocument (settings : SiteSettings) : Document :=
  .record
    [("id", .text settings.id),
     ("required_tag", .bool settings.requiredTag),
     ("created_at", settings.createdAt.toDocument),
     ("updated_at", .optional Timestamp.toDocument settings.updatedAt)]

/-- The settings in a document. -/
def ofDocument? (document : Document) : Option SiteSettings := do
  let fields ← document.record? fieldNames
  return {
    id := ← fields.required? "id" Document.text?
    requiredTag := ← fields.required? "required_tag" Document.bool?
    createdAt := ← fields.required? "created_at" Timestamp.ofDocument?
    updatedAt := ← fields.optional? "updated_at" Timestamp.ofDocument? }

/-- The row that is stored first. -/
def first (requiredTag : Bool) (now : Timestamp) : SiteSettings := ⟨siteId, requiredTag, now, none⟩

end SiteSettings

end TagTimeline
