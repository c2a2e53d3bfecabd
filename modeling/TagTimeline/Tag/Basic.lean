import TagTimeline.Time.Document

/-!
# Tags

A tag as it is stored, what a new tag is made of, and the flags and orders by which tags are asked
for. A tag is never erased: deleting it changes its status. A tag may be a synonym of a main tag
and then carries a link to it; an empty main tag id, or `0`, means no main tag.

Recommendation is a stored flag that readers see only while the site requires tags.

## Main results

* `Tag.masked_eq` — readers see the stored flag and the site's setting, both at once.
-/

namespace TagTimeline

open Json Time

/-- Whether a tag can be seen or has been deleted. -/
inductive TagStatus where
  | available
  | deleted
  deriving DecidableEq, Repr

namespace TagStatus

/-- The name of a status. -/
def name : TagStatus → String
  | available => "available"
  | deleted => "deleted"

/-- The status with a name. -/
def ofName? (name : String) : Option TagStatus :=
  [available, deleted].find? fun status => status.name == name

/-- A status as a document. -/
def toDocument (status : TagStatus) : Document := .text status.name

/-- A status in a document. -/
def ofDocument? : Document → Option TagStatus := Document.choice? ofName?

end TagStatus

/-- **A tag**, as it is stored. -/
structure Tag where
  id : String
  /-- The name in addresses, of which no two tags have the same. -/
  slugName : String
  displayName : String
  /-- The description as written. -/
  originalText : String
  /-- The description rendered. -/
  parsedText : String
  /-- The tag of which this one is a synonym. -/
  mainTagId : Option String
  mainTagSlugName : Option String
  recommend : Bool
  reserved : Bool
  status : TagStatus
  followCount : Int32
  questionCount : Int32
  /-- The latest revision of the description. -/
  revisionId : String
  createdAt : Timestamp
  updatedAt : Timestamp
  deriving DecidableEq

namespace Tag

/-- Whether a tag is a synonym of a main tag. -/
def isSynonym (tag : Tag) : Bool := tag.mainTagId.isSome

/-- Whether a tag can be seen. -/
def isAvailable (tag : Tag) : Bool := tag.status == .available

/-- **What readers see of a tag**: its recommendation only while the site requires tags. -/
def masked (tagRequired : Bool) (tag : Tag) : Tag :=
  if tagRequired then tag else { tag with recommend := false }

/-- Readers see the stored flag and the setting, both at once; nothing else is hidden. -/
theorem masked_eq (tagRequired : Bool) (tag : Tag) :
    tag.masked tagRequired = { tag with recommend := tag.recommend && tagRequired } := by
  cases tagRequired with
  | true => rw [Bool.and_true]; rfl
  | false => rw [Bool.and_false]; rfl

/-- The main tag id that stands for none besides the empty one. -/
def noMainTag : String := "0"

/-- **A main tag id that leads somewhere**: neither empty nor `0`. -/
def linkTarget? (mainTagId : Option String) : Option String :=
  mainTagId.filter fun id => id ≠ "" ∧ id ≠ noMainTag

/-- A tag with its link dropped if it leads nowhere. -/
def withUsableLink (tag : Tag) : Tag :=
  match linkTarget? tag.mainTagId with
  | some _ => tag
  | none => { tag with mainTagId := none, mainTagSlugName := none }

/-- The names of a tag's fields, in the order of declaration. -/
def fieldNames : List String :=
  ["id", "slug_name", "display_name", "original_text", "parsed_text", "main_tag_id",
   "main_tag_slug_name", "recommend", "reserved", "status", "follow_count", "question_count",
   "revision_id", "created_at", "updated_at"]

/-- The tag as a document. -/
def toDocument (tag : Tag) : Document :=
  .record
    [("id", .text tag.id),
     ("slug_name", .text tag.slugName),
     ("display_name", .text tag.displayName),
     ("original_text", .text tag.originalText),
     ("parsed_text", .text tag.parsedText),
     ("main_tag_id", .optional .text tag.mainTagId),
     ("main_tag_slug_name", .optional .text tag.mainTagSlugName),
     ("recommend", .bool tag.recommend),
     ("reserved", .bool tag.reserved),
     ("status", tag.status.toDocument),
     ("follow_count", .int tag.followCount.toInt),
     ("question_count", .int tag.questionCount.toInt),
     ("revision_id", .text tag.revisionId),
     ("created_at", tag.createdAt.toDocument),
     ("updated_at", tag.updatedAt.toDocument)]

/-- The tag in a document. -/
def ofDocument? (document : Document) : Option Tag := do
  let fields ← document.record? fieldNames
  return {
    id := ← fields.required? "id" Document.text?
    slugName := ← fields.required? "slug_name" Document.text?
    displayName := ← fields.required? "display_name" Document.text?
    originalText := ← fields.required? "original_text" Document.text?
    parsedText := ← fields.required? "parsed_text" Document.text?
    mainTagId := ← fields.optional? "main_tag_id" Document.text?
    mainTagSlugName := ← fields.optional? "main_tag_slug_name" Document.text?
    recommend := ← fields.required? "recommend" Document.bool?
    reserved := ← fields.required? "reserved" Document.bool?
    status := ← fields.required? "status" TagStatus.ofDocument?
    followCount := ← fields.required? "follow_count" Document.int32?
    questionCount := ← fields.required? "question_count" Document.int32?
    revisionId := ← fields.required? "revision_id" Document.text?
    createdAt := ← fields.required? "created_at" Timestamp.ofDocument?
    updatedAt := ← fields.required? "updated_at" Timestamp.ofDocument? }

end Tag

/-- **What a new tag is made of.** -/
structure NewTag where
  slugName : String
  displayName : String
  originalText : String
  parsedText : String
  recommend : Bool
  reserved : Bool
  deriving DecidableEq, Repr

namespace NewTag

/-- The revision that a new tag starts with. -/
def firstRevision : String := "0"

/-- **The tag made of a new one**: available, without counts, link or revisions. -/
def toTag (new : NewTag) (id : String) (now : Timestamp) : Tag where
  id := id
  slugName := new.slugName
  displayName := new.displayName
  originalText := new.originalText
  parsedText := new.parsedText
  mainTagId := none
  mainTagSlugName := none
  recommend := new.recommend
  reserved := new.reserved
  status := .available
  followCount := 0
  questionCount := 0
  revisionId := firstRevision
  createdAt := now
  updatedAt := now

end NewTag

/-- A flag of a tag that can be set for many tags at once. -/
inductive TagAttribute where
  | recommend
  | reserved
  deriving DecidableEq, Repr

namespace TagAttribute

/-- The flag with a name. -/
def ofName? (name : String) : Option TagAttribute :=
  if name = "recommend" then some recommend
  else if name = "reserved" then some reserved
  else none

/-- A tag with the flag set to a value. -/
def set (flag : TagAttribute) (value : Bool) (tag : Tag) : Tag :=
  match flag with
  | recommend => { tag with recommend := value }
  | reserved => { tag with reserved := value }

end TagAttribute

/-- The orders in which tags can be paged through. -/
inductive TagSort where
  /-- Most questions first. -/
  | popular
  /-- By slug name. -/
  | name
  /-- Newest first. -/
  | newest
  /-- As they are stored. -/
  | unordered
  deriving DecidableEq, Repr

namespace TagSort

instance : Inhabited TagSort := ⟨unordered⟩

/-- The order with a name; every other name leaves tags as they are stored. -/
def ofQuery (query : String) : TagSort :=
  if query = "popular" then popular
  else if query = "name" then name
  else if query = "newest" then newest
  else unordered

end TagSort

end TagTimeline
