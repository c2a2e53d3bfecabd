import TagTimeline.Request
import TagTimeline.Site.Setting
import TagTimeline.Tag.Storage

/-!
# The Tag Catalog

The operations on tags as clients use them. Every read first learns whether the site requires tags,
and treats a setting that cannot be read as off; requests are checked before anything is read.
Asking for one tag that is not there is a failure that names it.

## Main results

* `Catalog.getTagPage` — a page of tags, searched by name.
* `Catalog.searchTags` — name completion.
-/

namespace TagTimeline.Catalog

open Time

/-- A tag that has to be there. -/
def expect (name : String) : Except ServiceError (Option Tag) → Except ServiceError Tag
  | .ok (some tag) => .ok tag
  | .ok none => .error (.tagNotFound name)
  | .error e => .error e

/-- That a request breaks rules. -/
def refusal (violations : Violations) : ServiceError := .validation (Violation.summary violations)

/-! ### Reads -/

/-- The available tag with an id. -/
def getTag (source : SettingSource) (id : String) (s : Store) : Except ServiceError Tag :=
  expect id (s.tagById id (source.effective s))

/-- The tag of any status with an id. -/
def getTagAnyStatus (source : SettingSource) (id : String) (s : Store) : Except ServiceError Tag :=
  expect id (s.tagByIdAnyStatus id (source.effective s))

/-- The available tag with a slug name. -/
def getTagBySlugName (source : SettingSource) (slugName : String) (s : Store) :
    Except ServiceError Tag :=
  expect slugName (s.tagBySlugName slugName (source.effective s))

/-- The available tags with some ids. -/
def getTagsByIds (source : SettingSource) (ids : List String) (s : Store) :
    Except ServiceError (List Tag) :=
  s.tagsByIds ids (source.effective s)

/-- The tags of any status with some slug names. -/
def getTagsBySlugNames (source : SettingSource) (names : List String) (s : Store) :
    Except ServiceError (List Tag) :=
  s.tagsByNames names (source.effective s)

/-- **Name completion.** -/
def searchTags (source : SettingSource) (request : SearchRequest) (s : Store) :
    Except ServiceError (List Tag) :=
  match request.violations with
  | [] => s.tagsCompleting request.name request.limit request.hasReserved (source.effective s)
  | violations => .error (refusal violations)

/-- The recommended tags of any status. -/
def getRecommendTags (source : SettingSource) (s : Store) : Except ServiceError (List Tag) :=
  s.recommendedTags (source.effective s)

/-- The reserved tags of any status. -/
def getReservedTags (source : SettingSource) (s : Store) : Except ServiceError (List Tag) :=
  s.reservedTags (source.effective s)

/-- The available tags that a filter accepts. -/
def getTags (source : SettingSource) (filter : TagFilter) (s : Store) :
    Except ServiceError (List Tag) :=
  s.tagsWhere filter (source.effective s)

/-- **A page of tags**, searched by name, with the number of tags on all pages. -/
def getTagPage (source : SettingSource) (request : TagPageRequest) (s : Store) :
    Except ServiceError (List Tag × Nat) :=
  match request.violations with
  | [] =>
      s.tagPage request.page request.pageSize
        { slugName := request.slugName.filter (· ≠ "") }
        (TagSort.ofQuery request.queryCond) (source.effective s)
  | violations => .error (refusal violations)

/-! ### Writes -/

/-- Stores new tags. -/
def addTags (ids : List String) (now : Timestamp) (new : List NewTag) (s : Store) :
    Outcome (List Tag) :=
  s.addTags ids now new

/-- Deletes a tag. -/
def removeTag (id : String) (now : Timestamp) (s : Store) : Outcome Unit := s.removeTag id now

/-- Overwrites a tag. -/
def updateTag (tag : Tag) (now : Timestamp) (s : Store) : Outcome Tag := s.updateTag tag now

/-- Sets the number of a tag's questions. -/
def updateQuestionCount (id : String) (count : Int32) (s : Store) : Outcome Unit :=
  s.updateQuestionCount id count

/-- Makes tags synonyms of a main tag, or main tags themselves if none is given. -/
def updateSynonyms (names : List String) (mainTag : Option Tag) (s : Store) : Outcome Unit :=
  s.updateSynonyms names (mainTag.map Tag.id) (mainTag.map Tag.slugName)

/-- Sets a flag of some tags by its name. An unknown name changes nothing. -/
def updateAttribute (names : List String) (flagName : String) (value : Bool) (s : Store) :
    Outcome Unit :=
  match TagAttribute.ofName? flagName with
  | some flag => s.updateAttribute names flag value
  | none => (.ok (), s)

end TagTimeline.Catalog
