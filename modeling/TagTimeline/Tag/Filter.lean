import TagTimeline.Tag.Basic

/-!
# Tag Filters

A filter asks for tags by any of their fields. Each field that is set has to be equal to the
tag's; a tag without a link equals no link at all, and an empty text is a text like any other.

## Main results

* `TagFilter.accepts_empty` — the filter with nothing set accepts every tag.
-/

namespace TagTimeline

/-- **Which tags are asked for**, field by field. -/
structure TagFilter where
  id : Option String := none
  slugName : Option String := none
  displayName : Option String := none
  mainTagId : Option String := none
  mainTagSlugName : Option String := none
  recommend : Option Bool := none
  reserved : Option Bool := none
  originalText : Option String := none
  parsedText : Option String := none
  followCount : Option Int32 := none
  questionCount : Option Int32 := none
  revisionId : Option String := none
  deriving DecidableEq, Repr

namespace TagFilter

/-- The filter with nothing set. -/
def empty : TagFilter := {}

/-- Whether a field agrees with a value, as every field that is not set does. -/
def agrees {α : Type} [DecidableEq α] : Option α → α → Bool
  | none, _ => true
  | some wanted, value => wanted = value

/-- Whether a field agrees with a value that may be absent. -/
def agreesWithin {α : Type} [DecidableEq α] : Option α → Option α → Bool
  | none, _ => true
  | some wanted, value => value = some wanted

/-- **Whether a filter accepts a tag.** -/
def accepts (filter : TagFilter) (tag : Tag) : Bool :=
  agrees filter.id tag.id &&
  agrees filter.slugName tag.slugName &&
  agrees filter.displayName tag.displayName &&
  agreesWithin filter.mainTagId tag.mainTagId &&
  agreesWithin filter.mainTagSlugName tag.mainTagSlugName &&
  agrees filter.recommend tag.recommend &&
  agrees filter.reserved tag.reserved &&
  agrees filter.originalText tag.originalText &&
  agrees filter.parsedText tag.parsedText &&
  agrees filter.followCount tag.followCount &&
  agrees filter.questionCount tag.questionCount &&
  agrees filter.revisionId tag.revisionId

/-- A field agrees exactly if it is equal wherever it is set. -/
theorem agrees_iff {α : Type} [DecidableEq α] {wanted : Option α} {value : α} :
    agrees wanted value = true ↔ ∀ w, wanted = some w → w = value := by
  cases wanted <;> simp [agrees]

/-- A field that may be absent agrees exactly if it is present and equal wherever it is set. -/
theorem agreesWithin_iff {α : Type} [DecidableEq α] {wanted value : Option α} :
    agreesWithin wanted value = true ↔ ∀ w, wanted = some w → value = some w := by
  cases wanted <;> simp [agreesWithin]

/-- The filter with nothing set accepts every tag. -/
@[simp] theorem accepts_empty (tag : Tag) : empty.accepts tag = true := rfl

end TagFilter

end TagTimeline
