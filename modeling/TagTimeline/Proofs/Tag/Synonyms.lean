import TagTimeline.Proofs.Store.Call
import TagTimeline.Proofs.Tag.Paging

/-!
# Synonyms

A tag with a main tag id is a synonym, and pages leave synonyms out. Ids are written by whoever
writes tags, and an empty one, or `0`, means no main tag. No writer stores such an id: so what a
page leaves out for its link is a synonym of a tag that can be named, in every run.

## Main results

* `Store.isOnPage_iff` — which tags can be paged to.
* `Store.rows?_tag_afterCalls` — ids, slug names and links of the tag table in every run.
-/

namespace TagTimeline

open TagQuery

namespace Tag

/-- A tag without its link. -/
def unlinked (tag : Tag) : Tag := { tag with mainTagId := none, mainTagSlugName := none }

/-- A tag that is no synonym has no link that could be taken from it. -/
theorem HasUsableLink.unlinked_eq {tag : Tag} (h : tag.HasUsableLink)
    (hmain : tag.mainTagId = none) : tag.unlinked = tag := by
  have hname := h.2 hmain
  cases tag
  simp_all [unlinked]

end Tag

namespace Store

/-- **Whether a tag is on one of the pages for a filter**, of any size and in any order. -/
def IsOnPage (s : Store) (filter : TagFilter) (tag : Tag) : Prop :=
  ∃ page pageSize sort tagRequired tags count,
    s.tagPage page pageSize filter sort tagRequired = .ok (tags, count) ∧
      tag.masked tagRequired ∈ tags

variable {s : Store} {rows : List Tag}

/-- A page of the greatest size, which the store takes as no limit, holds every tag that can be
paged through. -/
theorem rows_page_largest (filter : TagFilter) :
    (TagQuery.page 1 (0 - 1) filter .unordered rows).1 = matching filter rows := by
  rw [TagQuery.page, filter_pageable, cut, skipping, if_pos (by decide), limited,
    if_neg (by decide)]
  exact List.drop_zero

/-- **The tags on the pages** for a filter are those that the pages ask for. -/
theorem isOnPage_iff (hrows : s.rows? Tag = some rows) (hids : (rows.map Tag.id).Nodup)
    {filter : TagFilter} {tag : Tag} (htag : tag ∈ rows) :
    s.IsOnPage filter tag ↔ IsPageable filter tag := by
  constructor
  · rintro ⟨page, pageSize, sort, tagRequired, tags, count, hanswer, hmem⟩
    rw [tagPage_eq hrows] at hanswer
    obtain ⟨rfl, -⟩ := Prod.mk.inj (Except.ok.inj hanswer)
    obtain ⟨found, hfound, hshown⟩ := List.mem_map.mp hmem
    have hpageable := List.mem_filter.mp (page_subset_filter page pageSize filter sort hfound)
    have hid : found.id = tag.id := by
      simpa only [Tag.masked_id] using congrArg Tag.id hshown
    obtain rfl : found = tag := List.inj_on_of_nodup_map hids hpageable.1 htag hid
    exact pageable_iff.mp hpageable.2
  · intro hpageable
    refine ⟨1, 0 - 1, .unordered, true, _, _, tagPage_eq hrows _ _ _ _ _, List.mem_map_of_mem ?_⟩
    rw [rows_page_largest]
    exact List.mem_filter.mpr ⟨htag, decide_eq_true hpageable⟩

/-- **The tag table in every run.** Behind any calls, whatever their arguments and whether they
succeed or not, ids are distinct, slug names are distinct, those of deleted tags included, a main
tag id is neither empty nor `0`, and a tag without one has no slug name of a main tag either. So a
synonym has a main tag that can be named, and what keeps a tag off the pages for its link is exactly
that it is a synonym: a tag is on the pages for a filter if they ask for the tag without its link,
and it is none. -/
theorem rows?_tag_afterCalls (calls : List ((α : Type) × Call α)) :
    ∃ rows, (afterCalls calls).rows? Tag = some rows ∧
      (rows.map Tag.id).Nodup ∧
      (rows.map Tag.slugName).Nodup ∧
      ∀ tag ∈ rows,
        (∀ id, tag.mainTagId = some id → id ≠ "" ∧ id ≠ "0") ∧
        (tag.mainTagId = none → tag.mainTagSlugName = none) ∧
        (tag.isSynonym = true → ∃ id, Tag.linkTarget? tag.mainTagId = some id) ∧
        ∀ filter, (afterCalls calls).IsOnPage filter tag ↔
          IsPageable filter tag.unlinked ∧ tag.isSynonym = false := by
  obtain ⟨rows, hrows, hconsistent⟩ := hasConsistentTags_afterCalls calls
  refine ⟨rows, hrows, hconsistent.ids, hconsistent.slugNames, fun tag htag => ?_⟩
  have hlink : tag.HasUsableLink := hconsistent.links tag htag
  refine ⟨hlink.1, hlink.2, fun hsynonym => ?_, fun filter => ?_⟩
  · obtain ⟨id, hid⟩ := Option.isSome_iff_exists.mp hsynonym
    exact ⟨id, Tag.linkTarget?_eq_some.mpr ⟨hid, hlink.1 id hid⟩⟩
  · rw [isOnPage_iff hrows hconsistent.ids htag]
    constructor
    · intro hpageable
      have hmain := hpageable.noMainTag
      rw [hlink.unlinked_eq hmain, Tag.isSynonym, hmain]
      exact ⟨hpageable, rfl⟩
    · rintro ⟨hpageable, hsynonym⟩
      have hmain : tag.mainTagId = none :=
        Option.isNone_iff_eq_none.mp (Option.isSome_eq_false_iff.mp hsynonym)
      rwa [hlink.unlinked_eq hmain] at hpageable

end Store

end TagTimeline
