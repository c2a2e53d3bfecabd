import TagTimeline.Store.Basic
import TagTimeline.Tag.Query

/-!
# Tags in the Store

The operations on stored tags. A read is told whether the site requires tags and hides the
recommendations of the tags it answers if not; which tags it answers, their order and their number
do not depend on it. Every write is one statement.

## Main results

* `Store.addTags` — a batch of new tags is stored as a whole or not at all.
* `Store.updateTag` — overwrites a tag; one that does not exist is named in the failure.
-/

namespace TagTimeline.Store

open Time

/-! ### Writes -/

/-- **Stores new tags**, each under its own id and all with one time. No new tags need no store. -/
def addTags (ids : List String) (now : Timestamp) (new : List NewTag) (s : Store) :
    Outcome (List Tag) :=
  if new.isEmpty then (.ok [], s)
  else
    let tags := List.zipWith (fun tag id => tag.toTag id now) new ids
    match s.write "insert tag list" (Statement.insertAll Tag.clash? tags) with
    | (.ok (), s) => (.ok tags, s)
    | (.error e, s) => (.error e, s)

/-- **Deletes a tag** by changing its status. A tag that does not exist is left at that. -/
def removeTag (id : String) (now : Timestamp) (s : Store) : Outcome Unit :=
  s.write "remove tag" <| Statement.update (fun t : Tag => t.id == id)
    fun t => { t with status := .deleted, updatedAt := now }

/-- Overwrites the row with the id of a tag. Nothing is answered if there is none. -/
def overwriteTag (tag : Tag) : Statement Tag (Option Tag) := fun rows =>
  if rows.any (fun t => t.id == tag.id) then
    if rows.any (fun t => t.id != tag.id && t.slugName == tag.slugName) then
      .error (.takenKey TableName.tag.name "slug_name")
    else .ok (some tag, rows.map fun t => if t.id == tag.id then tag else t)
  else .ok (none, rows)

/-- **Overwrites a tag**, all of it except the time of the change. A link that leads nowhere is
dropped. -/
def updateTag (tag : Tag) (now : Timestamp) (s : Store) : Outcome Tag :=
  match s.write "update tag" (overwriteTag { tag.withUsableLink with updatedAt := now }) with
  | (.ok (some stored), s) => (.ok stored, s)
  | (.ok none, s) => (.error (.tagNotFound tag.id), s)
  | (.error e, s) => (.error e, s)

/-- Sets the number of a tag's questions. -/
def updateQuestionCount (id : String) (count : Int32) (s : Store) : Outcome Unit :=
  s.write "update tag question count" <| Statement.update (fun t : Tag => t.id == id)
    fun t => { t with questionCount := count }

/-- **Links tags to a main tag**, or makes them main tags themselves if the link leads nowhere. Both
parts of the link are always written. -/
def updateSynonyms (names : List String) (mainTagId mainTagSlugName : Option String) (s : Store) :
    Outcome Unit :=
  let target := Tag.linkTarget? mainTagId
  let targetName := if target.isSome then mainTagSlugName else none
  s.write "update tag synonym" <| Statement.update (fun t : Tag => names.contains t.slugName)
    fun t => { t with mainTagId := target, mainTagSlugName := targetName }

/-- Sets a flag of some tags. -/
def updateAttribute (names : List String) (flag : TagAttribute) (value : Bool) (s : Store) :
    Outcome Unit :=
  s.write "update tags attribute" <| Statement.update (fun t : Tag => names.contains t.slugName)
    fun t => flag.set value t

/-! ### Reads -/

/-- Reads some tags, as readers see them. -/
def readTags (context : String) (query : List Tag → List Tag) (tagRequired : Bool) (s : Store) :
    Except ServiceError (List Tag) :=
  s.select context fun tags => (query tags).map (Tag.masked tagRequired)

/-- Reads one tag, as readers see it. -/
def readTag (context : String) (query : List Tag → Option Tag) (tagRequired : Bool) (s : Store) :
    Except ServiceError (Option Tag) :=
  s.select context fun tags => (query tags).map (Tag.masked tagRequired)

/-- Available tags with some ids. -/
def tagsByIds (ids : List String) (tagRequired : Bool) (s : Store) :
    Except ServiceError (List Tag) :=
  readTags "get tag list by ids" (TagQuery.byIds ids) tagRequired s

/-- Tags of any status with some slug names. -/
def tagsByNames (names : List String) (tagRequired : Bool) (s : Store) :
    Except ServiceError (List Tag) :=
  readTags "get tag list by names" (TagQuery.byNames names) tagRequired s

/-- The available tag with a slug name. -/
def tagBySlugName (slugName : String) (tagRequired : Bool) (s : Store) :
    Except ServiceError (Option Tag) :=
  readTag "get tag by slug name" (TagQuery.bySlugName? slugName) tagRequired s

/-- The available tag with an id. -/
def tagById (id : String) (tagRequired : Bool) (s : Store) :
    Except ServiceError (Option Tag) :=
  readTag "get tag by id" (TagQuery.byId? id) tagRequired s

/-- The tag of any status with an id. -/
def tagByIdAnyStatus (id : String) (tagRequired : Bool) (s : Store) :
    Except ServiceError (Option Tag) :=
  readTag "get tag by id" (TagQuery.byIdAnyStatus? id) tagRequired s

/-- Tags that complete a name. -/
def tagsCompleting (name : String) (limit : UInt64) (hasReserved tagRequired : Bool) (s : Store) :
    Except ServiceError (List Tag) :=
  readTags "get tag list by name" (TagQuery.completions name limit hasReserved) tagRequired s

/-- Recommended tags of any status. -/
def recommendedTags (tagRequired : Bool) (s : Store) : Except ServiceError (List Tag) :=
  readTags "get recommend tag list" TagQuery.recommended tagRequired s

/-- Reserved tags of any status. -/
def reservedTags (tagRequired : Bool) (s : Store) : Except ServiceError (List Tag) :=
  readTags "get reserved tag list" TagQuery.reserved tagRequired s

/-- Available tags that a filter accepts. -/
def tagsWhere (filter : TagFilter) (tagRequired : Bool) (s : Store) :
    Except ServiceError (List Tag) :=
  readTags "get tag list" (TagQuery.filtered filter) tagRequired s

/-- **A page of tags**, with the number of tags on all pages. The number is asked for first. -/
def tagPage (page pageSize : UInt64) (filter : TagFilter) (sort : TagSort) (tagRequired : Bool)
    (s : Store) : Except ServiceError (List Tag × Nat) :=
  s.select "count tag page" fun tags =>
    let (rows, count) := TagQuery.page page pageSize filter sort tags
    (rows.map (Tag.masked tagRequired), count)

end TagTimeline.Store
