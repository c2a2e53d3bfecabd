import TagTimeline.Json.Record

/-!
# Requests

What clients ask for, as it comes in JSON text, and the rules that a request has to keep. Fields
have defaults where a request is meaningful without them. A request that can be read but breaks a
rule is refused, and all its broken rules are told by field.

## Main results

* `TagPageRequest.violations_eq_nil_iff` and `SearchRequest.violations_eq_nil_iff` — which requests
  break no rule.
-/

namespace TagTimeline

open Json

/-- **A broken rule** on a field. -/
inductive Violation where
  /-- A number is not from `least` to `most`; without `most` there is no upper end. -/
  | range (least : UInt64) (most : Option UInt64) (value : UInt64)
  /-- A text is shorter than `least` characters. -/
  | length (least : Nat) (value : String)
  deriving DecidableEq, Repr

/-- Broken rules, by field. -/
abbrev Violations := List (String × Violation)

namespace Violation

/-- The name of the kind of rule. -/
def code : Violation → String
  | range .. => "range"
  | length .. => "length"

/-- The rule that a number lies between two bounds. -/
def checkRange (field : String) (least : UInt64) (most : Option UInt64) (value : UInt64) :
    Violations :=
  if least ≤ value ∧ most.all (fun m => value ≤ m) then [] else [(field, .range least most value)]

/-- A number keeps the rule exactly if it lies between the bounds. -/
theorem checkRange_eq_nil_iff {field : String} {least : UInt64} {most : Option UInt64}
    {value : UInt64} :
    checkRange field least most value = [] ↔ least ≤ value ∧ ∀ m, most = some m → value ≤ m := by
  rw [checkRange]
  split
  · next h => simpa [Option.all_eq_true] using h
  · next h => simpa [Option.all_eq_true] using h

/-- The rule that a text is not empty. -/
def checkNotEmpty (field value : String) : Violations :=
  if value.isEmpty then [(field, .length 1 value)] else []

/-- The wording of broken rules, by field and kind. Behind each kind the program spells out the
bounds and the value, in an order that is not fixed; this part is left out of the wording here, and
told by the rules themselves. -/
def summary (violations : Violations) : String :=
  "\n".intercalate (violations.map fun (field, violation) => field ++ ": " ++ violation.code)

end Violation

/-- The greatest number of tags that can be asked for at once. -/
def mostTags : UInt64 := 100

/-- **A request for a page of tags.** -/
structure TagPageRequest where
  /-- Counted from 1. -/
  page : UInt64
  pageSize : UInt64
  /-- A search text for slug and display names. -/
  slugName : Option String
  /-- The name of an order. -/
  queryCond : String
  deriving DecidableEq, Repr

namespace TagPageRequest

/-- The request in a document. -/
def ofDocument? (document : Document) : Option TagPageRequest := do
  let fields ← document.record? ["page", "page_size", "slug_name", "query_cond"]
  return {
    page := ← fields.withDefault? "page" 1 Document.uint64?
    pageSize := ← fields.withDefault? "page_size" 20 Document.uint64?
    slugName := ← fields.optional? "slug_name" Document.text?
    queryCond := ← fields.withDefault? "query_cond" "" Document.text? }

/-- The rules that the request breaks. -/
def violations (request : TagPageRequest) : Violations :=
  Violation.checkRange "page" 1 none request.page ++
    Violation.checkRange "page_size" 1 (some mostTags) request.pageSize

/-- A request for a page breaks no rule exactly if there can be such a page of a size in bounds. -/
theorem violations_eq_nil_iff (request : TagPageRequest) :
    request.violations = [] ↔
      1 ≤ request.page ∧ 1 ≤ request.pageSize ∧ request.pageSize ≤ mostTags := by
  simp only [violations, List.append_eq_nil_iff, Violation.checkRange_eq_nil_iff, reduceCtorEq,
    false_implies, implies_true, and_true, Option.some.injEq, forall_eq']

end TagPageRequest

/-- **A request to complete a tag name.** -/
structure SearchRequest where
  /-- How the slug name begins; the empty name asks for recommended tags. -/
  name : String
  limit : UInt64
  hasReserved : Bool
  deriving DecidableEq, Repr

namespace SearchRequest

/-- The request in a document. -/
def ofDocument? (document : Document) : Option SearchRequest := do
  let fields ← document.record? ["name", "limit", "has_reserved"]
  return {
    name := ← fields.withDefault? "name" "" Document.text?
    limit := ← fields.withDefault? "limit" 5 Document.uint64?
    hasReserved := ← fields.withDefault? "has_reserved" false Document.bool? }

/-- The rules that the request breaks. -/
def violations (request : SearchRequest) : Violations :=
  Violation.checkRange "limit" 1 (some mostTags) request.limit

/-- A request to complete a name breaks no rule exactly if it asks for a number of tags in
bounds. -/
theorem violations_eq_nil_iff (request : SearchRequest) :
    request.violations = [] ↔ 1 ≤ request.limit ∧ request.limit ≤ mostTags := by
  simp only [violations, Violation.checkRange_eq_nil_iff, Option.some.injEq, forall_eq']

end SearchRequest

/-- **A request for the timeline of an object.** -/
structure TimelineRequest where
  objectId : String
  /-- Whether votes are shown. -/
  showVote : Bool
  deriving DecidableEq, Repr

namespace TimelineRequest

/-- The request in a document. -/
def ofDocument? (document : Document) : Option TimelineRequest := do
  let fields ← document.record? ["object_id", "show_vote"]
  return {
    objectId := ← fields.required? "object_id" Document.text?
    showVote := ← fields.withDefault? "show_vote" false Document.bool? }

/-- The rules that the request breaks. -/
def violations (request : TimelineRequest) : Violations :=
  Violation.checkNotEmpty "object_id" request.objectId

end TimelineRequest

/-- **A request to compare two revisions.** -/
structure DiffRequest where
  oldRevisionId : String
  newRevisionId : String
  deriving DecidableEq, Repr

namespace DiffRequest

/-- The request in a document. -/
def ofDocument? (document : Document) : Option DiffRequest := do
  let fields ← document.record? ["old_revision_id", "new_revision_id"]
  return {
    oldRevisionId := ← fields.required? "old_revision_id" Document.text?
    newRevisionId := ← fields.required? "new_revision_id" Document.text? }

/-- The rules that the request breaks. -/
def violations (request : DiffRequest) : Violations :=
  Violation.checkNotEmpty "old_revision_id" request.oldRevisionId ++
    Violation.checkNotEmpty "new_revision_id" request.newRevisionId

end DiffRequest

end TagTimeline
