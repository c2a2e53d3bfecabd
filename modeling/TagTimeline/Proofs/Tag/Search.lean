import TagTimeline.Proofs.Tag.Agreement
import TagTimeline.Proofs.Tag.Batch
import TagTimeline.Proofs.Text.Literal

/-!
# Searching by Name

Which tags a search text finds. The text stands between two wildcards in the pattern that names are
compared with, and its own characters are not marked in any way. So the pages hold the tags with a
name that matches the pattern. These are the tags with a name that contains the text as long as none
of its characters has a meaning of its own; for any other text there is a run in which they are not.

## Main results

* `TagQuery.occurs_iff_contains` — a plain text occurs in the names that contain it.
* `Store.pagesAre_matching` — the pages of a search in one store.
* `Store.pagesAre_afterCalls` — which texts are searched for literally in every run.
-/

namespace TagTimeline

open Text

namespace TagQuery

/-- **Whether a text contains a search text**, up to the case of ASCII letters. -/
def Contains (search text : String) : Prop := search.toLower.toList <:+: text.toLower.toList

instance (search text : String) : Decidable (Contains search text) :=
  inferInstanceAs (Decidable (search.toLower.toList <:+: text.toLower.toList))

instance (search text : String) : Decidable (Occurs search text) :=
  decidable_of_iff _ Pattern.matches_iff

/-- **What a search asks of a tag**: that it can be seen, has no main tag, and has a name that is
searched for. -/
structure IsListed (wanted : String → Prop) (tag : Tag) : Prop where
  available : tag.status = .available
  noMainTag : tag.mainTagId = none
  named : wanted tag.slugName ∨ wanted tag.displayName

instance (wanted : String → Prop) [DecidablePred wanted] (tag : Tag) :
    Decidable (IsListed wanted tag) :=
  decidable_of_iff (tag.status = .available ∧ tag.mainTagId = none ∧
      (wanted tag.slugName ∨ wanted tag.displayName))
    ⟨fun h => ⟨h.1, h.2.1, h.2.2⟩, fun h => ⟨h.available, h.noMainTag, h.named⟩⟩

/-- **That both names of a tag can be seen as a whole**: neither has a NUL character. -/
structure IsVisible (tag : Tag) : Prop where
  slugName : '\x00' ∉ tag.slugName.toList
  displayName : '\x00' ∉ tag.displayName.toList

instance (tag : Tag) : Decidable (IsVisible tag) :=
  decidable_of_iff ('\x00' ∉ tag.slugName.toList ∧ '\x00' ∉ tag.displayName.toList)
    ⟨fun h => ⟨h.1, h.2⟩, fun h => ⟨h.slugName, h.displayName⟩⟩

variable {search : String}

/-- **A plain text occurs** in the texts that contain it, as far as they can be seen. -/
theorem occurs_iff_contains (hplain : Pattern.IsPlain search) {text : String}
    (htext : '\x00' ∉ text.toList) : Occurs search text ↔ Contains search text := by
  rw [Occurs, ← Pattern.matches_iff, ← Pattern.like, Pattern.like_containing_iff hplain,
    Pattern.visible_eq_toList htext, ← Pattern.toList_toLower, Contains]

/-- A search for a plain text lists the tags with a name that contains it. -/
theorem isListed_iff (hplain : Pattern.IsPlain search) {tag : Tag} (hvisible : IsVisible tag) :
    IsListed (Occurs search) tag ↔ IsListed (Contains search) tag := by
  have hslug := occurs_iff_contains hplain hvisible.slugName
  have hdisplay := occurs_iff_contains hplain hvisible.displayName
  constructor
  · intro h
    exact ⟨h.available, h.noMainTag, h.named.imp hslug.mp hdisplay.mp⟩
  · intro h
    exact ⟨h.available, h.noMainTag, h.named.imp hslug.mpr hdisplay.mpr⟩

/-- A search text that is not empty makes the pages of the tags in whose names it occurs. -/
theorem matching_search (hsearch : search ≠ "") (rows : List Tag) :
    matching { slugName := some search } rows =
      rows.filter fun tag => IsListed (Occurs search) tag := by
  refine List.filter_congr fun tag _ => ?_
  rw [decide_eq_decide]
  constructor
  · intro h
    exact ⟨h.available, h.noMainTag, h.found search rfl hsearch⟩
  · intro h
    refine ⟨h.available, h.noMainTag, ?_, TagFilter.accepts_iff.mp (TagFilter.accepts_empty tag)⟩
    intro text htext _
    obtain rfl : search = text := Option.some.inj htext
    exact h.named

end TagQuery

namespace Store

open TagQuery

/-- **That the pages of a search are of some tags** in a store: each is answered with their number,
whatever its size, its order and the setting are, and all of them together hold these tags. -/
structure PagesAre (s : Store) (search : String) (tags : List Tag) : Prop where
  paged : ∀ (pageSize : UInt64) (sort : TagSort) (tagRequired : Bool), ∃ page : UInt64 → List Tag,
    (∀ n, s.tagPage n pageSize { slugName := some search } sort tagRequired =
      .ok ((page n).map (Tag.masked tagRequired), tags.length)) ∧
    HoldAll page (rowsPerPage pageSize) tags
  /-- The catalog answers these pages to the requests that it accepts. -/
  answered : ∀ (source : SettingSource) (request : TagPageRequest), request.violations = [] →
    request.slugName = some search → Catalog.getTagPage source request s =
      s.tagPage request.page request.pageSize { slugName := some search }
        (TagSort.ofQuery request.queryCond) (source.effective s)

variable {s : Store} {rows tags : List Tag} {search : String}

/-- The pages of a search are counted once. -/
theorem PagesAre.length_eq {others : List Tag} (h : s.PagesAre search tags)
    (hothers : s.PagesAre search others) : tags.length = others.length := by
  obtain ⟨page, hpage, -⟩ := h.paged 1 .unordered false
  obtain ⟨other, hother, -⟩ := hothers.paged 1 .unordered false
  have hsame := (hpage 1).symm.trans (hother 1)
  exact congrArg Prod.snd (Except.ok.inj hsame)

/-- **The pages of a search** are of the tags in whose names the text occurs. -/
theorem pagesAre_matching (hrows : s.rows? Tag = some rows) (hslugs : (rows.map Tag.slugName).Nodup)
    (hsearch : search ≠ "") :
    s.PagesAre search (rows.filter fun tag => IsListed (Occurs search) tag) := by
  rw [← matching_search hsearch]
  constructor
  · intro pageSize sort tagRequired
    refine ⟨_, fun n => ?_, HoldAll.rows_page hslugs pageSize { slugName := some search } sort⟩
    rw [tagPage_eq hrows, ← filter_pageable]
    rfl
  · intro source request hvalid htext
    have hfilter : request.slugName.filter (· ≠ "") = some search := by
      rw [htext]
      exact Option.filter_some_pos (decide_eq_true hsearch)
    rw [Catalog.getTagPage, hvalid, hfilter]

/-- A run that stores one tag. -/
def naming (name : String) : List ((α : Type) × Call α) :=
  [⟨_, .addTags ["t1"] .epoch [named name]⟩]

/-- The tag is all that is stored. -/
theorem rows?_naming (name : String) :
    (afterCalls (naming name)).rows? Tag = some [(named name).toTag "t1" .epoch] := rfl

/-- **A name in which a text occurs** without being contained is found though it should not be. -/
theorem not_pagesAre_naming {name : String} (hsearch : search ≠ "") (hoccurs : Occurs search name)
    (hcontains : ¬ Contains search name) :
    ¬ (afterCalls (naming name)).PagesAre search
      ([(named name).toTag "t1" .epoch].filter fun tag => IsListed (Contains search) tag) := by
  intro hliteral
  have hlisted : decide (IsListed (Occurs search) ((named name).toTag "t1" .epoch)) = true :=
    decide_eq_true ⟨rfl, rfl, .inl hoccurs⟩
  have hunlisted : decide (IsListed (Contains search) ((named name).toTag "t1" .epoch)) = false :=
    decide_eq_false fun h => h.named.elim hcontains hcontains
  have hpages := pagesAre_matching (rows?_naming name) (List.nodup_singleton _) hsearch
  have hcount := hpages.length_eq hliteral
  rw [List.filter_singleton, List.filter_singleton, hlisted, hunlisted] at hcount
  cases hcount

/-- **Searching by name.** For every search text that is not empty: at every moment of any run, the
pages are of the available tags without a main tag in one of whose names the text occurs as a
pattern. These are the tags with a name that contains the text, up to the case of ASCII letters, at
every moment of any run with names that can be seen as a whole, exactly if the text is plain: it has
no wildcard and no NUL character. -/
theorem pagesAre_afterCalls (hsearch : search ≠ "") :
    (∀ calls, ∃ rows, (afterCalls calls).rows? Tag = some rows ∧
      (afterCalls calls).PagesAre search (rows.filter fun tag => IsListed (Occurs search) tag)) ∧
    (Pattern.IsPlain search ↔ ∀ calls rows, (afterCalls calls).rows? Tag = some rows →
      (∀ tag ∈ rows, IsVisible tag) →
        (afterCalls calls).PagesAre search
          (rows.filter fun tag => IsListed (Contains search) tag)) := by
  refine ⟨fun calls => ?_, ?_, ?_⟩
  · obtain ⟨rows, hrows, hconsistent⟩ := hasConsistentTags_afterCalls calls
    exact ⟨rows, hrows, pagesAre_matching hrows hconsistent.slugNames hsearch⟩
  · intro hplain calls rows hrows hvisible
    obtain ⟨stored, hstored, hconsistent⟩ := hasConsistentTags_afterCalls calls
    obtain rfl := Option.some.inj (hrows.symm.trans hstored)
    have hlisted : (rows.filter fun tag => IsListed (Contains search) tag) =
        rows.filter fun tag => IsListed (Occurs search) tag := by
      refine List.filter_congr fun tag htag => ?_
      rw [decide_eq_decide]
      exact (isListed_iff hplain (hvisible tag htag)).symm
    rw [hlisted]
    exact pagesAre_matching hrows hconsistent.slugNames hsearch
  · intro hliteral
    by_contra hplain
    -- the run that tells the two apart stores one tag, named like the text without its wildcards
    have hunmarked := Pattern.isPlain_unmarked search
    have hoccurs : Occurs search (Pattern.unmarked search) :=
      Pattern.matches_iff.mp (Pattern.like_containing_unmarked search)
    refine not_pagesAre_naming hsearch hoccurs (Pattern.not_infix_of_not_isPlain hplain hunmarked)
      (hliteral _ _ (rows?_naming _) fun tag htag => ?_)
    obtain rfl := List.mem_singleton.mp htag
    exact ⟨hunmarked.nul_notMem, hunmarked.nul_notMem⟩

/-- Two tags with a common part of their names and one without it. -/
def threeTags : List Tag :=
  [(named "Rust").toTag "t1" .epoch, (named "trusty").toTag "t2" .epoch,
    (named "go").toTag "t3" .epoch]

/-- A run that stores them. -/
def threeNames : List ((α : Type) × Call α) :=
  [⟨_, .addTags ["t1", "t2", "t3"] .epoch [named "Rust", named "trusty", named "go"]⟩]

/-- The common part in capitals finds the two tags that contain it, and a pattern for it the one
that matches. -/
theorem pagesAre_afterCalls_threeNames :
    (afterCalls threeNames).PagesAre "RUST" (threeTags.take 2) ∧
      (afterCalls threeNames).PagesAre "t_u%" [(named "trusty").toTag "t2" .epoch] := by
  have hrows : (afterCalls threeNames).rows? Tag = some threeTags := rfl
  constructor
  · obtain ⟨-, hliteral⟩ := @pagesAre_afterCalls "RUST" (by decide)
    have hcontained : (threeTags.filter fun tag => IsListed (Contains "RUST") tag) =
        threeTags.take 2 := by decide +kernel
    rw [← hcontained]
    exact hliteral.mp (by decide) threeNames threeTags hrows (by decide)
  · obtain ⟨hpattern, -⟩ := @pagesAre_afterCalls "t_u%" (by decide)
    obtain ⟨rows, hstored, hpages⟩ := hpattern threeNames
    obtain rfl := Option.some.inj (hrows.symm.trans hstored)
    have hmatched : (threeTags.filter fun tag => IsListed (Occurs "t_u%") tag) =
        [(named "trusty").toTag "t2" .epoch] := by decide +kernel
    rw [← hmatched]
    exact hpages

/-- **A wildcard in a search text stays one**: a tag is counted and listed though none of its names
contains the text. -/
theorem getTagPage_wildcard :
    (⟨1, 10, some "a_b", "name"⟩ : TagPageRequest).violations = [] ∧
      Catalog.getTagPage (.fixed false) ⟨1, 10, some "a_b", "name"⟩ (afterCalls (naming "axb")) =
        .ok ([(named "axb").toTag "t1" .epoch], 1) ∧
      ¬ IsListed (Contains "a_b") ((named "axb").toTag "t1" .epoch) := by
  refine ⟨by decide, ?_, ?_⟩
  · decide +kernel
  · decide +kernel

end Store

end TagTimeline
