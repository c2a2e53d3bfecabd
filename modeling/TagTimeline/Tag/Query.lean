import TagTimeline.Tag.Filter
import TagTimeline.Text.Pattern
import TagTimeline.Time.Order

/-!
# Tag Queries

Which tags of a table are asked for, and in what order. Every query looks at the stored flags and
answers stored rows; what readers may not see is hidden only afterwards.

Slug names and ids are compared bytewise, which for UTF-8 is the order of code points.

## Main results

* `Tag.heavierOrEqual` — recommended tags before others, then reserved ones, then higher ids.
* `TagQuery.page` — a page of the tags that are no synonyms.
-/

namespace TagTimeline

open Text Time

namespace Tag

/-- **The standard order of tags** asked for together: recommended ones first, then reserved ones,
then by id downward. -/
def heavierOrEqual (a b : Tag) : Bool :=
  if a.recommend != b.recommend then a.recommend
  else if a.reserved != b.reserved then a.reserved
  else decide (b.id ≤ a.id)

/-- The order of slug names. -/
def slugNotAfter (a b : Tag) : Bool := decide (a.slugName ≤ b.slugName)

/-- The order of most questions first. -/
def popularOrEqual (a b : Tag) : Bool := decide (b.questionCount ≤ a.questionCount)

/-- The order of newest first, as times are stored. -/
def newerOrEqual (a b : Tag) : Bool := b.createdAt.notAfter a.createdAt

end Tag

namespace TagSort

/-- Tags in one of the orders in which they can be paged through.

A query does not say in what order the tags come that the order does not tell apart. It is assumed
that they come as they are stored. A store may answer them otherwise, such as the tags with as many
questions backwards if it reads them from an index. -/
def apply (sort : TagSort) (tags : List Tag) : List Tag :=
  match sort with
  | popular => tags.mergeSort Tag.popularOrEqual
  | name => tags.mergeSort Tag.slugNotAfter
  | newest => tags.mergeSort Tag.newerOrEqual
  | unordered => tags

end TagSort

namespace TagQuery

/-- The greatest count of rows that the store understands. Greater ones, taken as signed numbers,
are negative. -/
def maxSigned : Nat := Nat.pow 2 63 - 1

/-- The first rows, as many as asked for. A negative count asks for all of them. -/
def limited {Row : Type} (count : UInt64) (rows : List Row) : List Row :=
  if count.toNat ≤ maxSigned then rows.take count.toNat else rows

/-- The rows behind so many others. A negative count leaves out none. -/
def skipping {Row : Type} (count : UInt64) (rows : List Row) : List Row :=
  if count.toNat ≤ maxSigned then rows.drop count.toNat else rows

/-- The available tags with some ids, in the standard order. -/
def byIds (ids : List String) (tags : List Tag) : List Tag :=
  (tags.filter fun t => t.isAvailable && ids.contains t.id).mergeSort Tag.heavierOrEqual

/-- The tags of any status with some slug names, in the standard order. -/
def byNames (names : List String) (tags : List Tag) : List Tag :=
  (tags.filter fun t => names.contains t.slugName).mergeSort Tag.heavierOrEqual

/-- The available tag with a slug name. -/
def bySlugName? (slugName : String) (tags : List Tag) : Option Tag :=
  tags.find? fun t => t.isAvailable && t.slugName == slugName

/-- The available tag with an id. -/
def byId? (id : String) (tags : List Tag) : Option Tag :=
  tags.find? fun t => t.isAvailable && t.id == id

/-- The tag of any status with an id. -/
def byIdAnyStatus? (id : String) (tags : List Tag) : Option Tag := tags.find? fun t => t.id == id

/-- Whether a tag completes a name: its slug name begins that way, wildcards included. An empty
name is completed by recommended tags. Reserved tags complete a name only if they are wanted. -/
def completes (name : String) (hasReserved : Bool) (tag : Tag) : Bool :=
  tag.isAvailable &&
    (if name.isEmpty then tag.recommend
      else Pattern.like (Pattern.startingWith name) tag.slugName) &&
    (hasReserved || !tag.reserved)

/-- **Name completion**: the first available tags, by slug name, that complete a name. -/
def completions (name : String) (limit : UInt64) (hasReserved : Bool) (tags : List Tag) :
    List Tag :=
  limited limit ((tags.filter (completes name hasReserved)).mergeSort Tag.slugNotAfter)

/-- The recommended tags of any status, by slug name. -/
def recommended (tags : List Tag) : List Tag :=
  (tags.filter Tag.recommend).mergeSort Tag.slugNotAfter

/-- The reserved tags of any status, by slug name. -/
def reserved (tags : List Tag) : List Tag :=
  (tags.filter Tag.reserved).mergeSort Tag.slugNotAfter

/-- The available tags that a filter accepts, as they are stored. -/
def filtered (filter : TagFilter) (tags : List Tag) : List Tag :=
  tags.filter fun t => t.isAvailable && filter.accepts t

/-- Whether a search text occurs in a tag's slug name or display name, wildcards included. An empty
search text occurs everywhere. -/
def found (search : Option String) (tag : Tag) : Bool :=
  match search with
  | none => true
  | some text =>
      text.isEmpty ||
        Pattern.like (Pattern.containing text) tag.slugName ||
        Pattern.like (Pattern.containing text) tag.displayName

/-- **The tags that can be paged through**: available, no synonym, found by the slug name of the
filter taken as a search text, and accepted by the rest of the filter. -/
def pageable (filter : TagFilter) (tag : Tag) : Bool :=
  tag.isAvailable && !tag.isSynonym && found filter.slugName tag &&
    ({ filter with slugName := none }).accepts tag

/-- How many tags lie before a page. Pages are counted from 1, page 0 is page 1, and a page has at
least one tag. The product is one of 64-bit numbers. -/
def pageStart (page pageSize : UInt64) : UInt64 :=
  pageSize * (if page = 0 then 0 else page - 1)

/-- The rows of a page, cut out of rows that are in order. -/
def cut {Row : Type} (page pageSize : UInt64) (rows : List Row) : List Row :=
  let pageSize := max pageSize 1
  limited pageSize (skipping (pageStart page pageSize) rows)

/-- **A page of tags**, with the number of tags on all pages together. -/
def page (page pageSize : UInt64) (filter : TagFilter) (sort : TagSort) (tags : List Tag) :
    List Tag × Nat :=
  let all := tags.filter (pageable filter)
  (cut page pageSize (sort.apply all), all.length)

end TagQuery

end TagTimeline
