import Mathlib.Data.List.TFAE
import TagTimeline.Proofs.Keys
import TagTimeline.Proofs.StableSort
import TagTimeline.Proofs.Store.Call
import TagTimeline.Proofs.Tag.Paging

/-!
# Reads that Agree

The catalog looks up one tag in several ways: by a query for one row, by a list of ids or names, by
a filter with one field set, and without regard to its status. Each of these chooses rows by
conditions of its own. They answer the same tag because ids and slug names are distinct: so what one
key chooses is one row or none, and it does not matter which row is taken first, or in what order.

Lists agree in the same way. The completions of the empty name are recommended tags, and the pages
without a search text hold the tags that are answered without a filter, less the synonyms.

## Main results

* `TagQuery.byIds_singleton`, `TagQuery.filtered_id` — one key asks for one row or none.
* `Store.readsAgree_afterCalls` — the reads of the catalog agree in every run.
-/

namespace TagTimeline

open Keyed

namespace TagFilter

/-- A filter with an id asks for the tags with it. -/
theorem accepts_id (id : String) (tag : Tag) :
    ({ id := some id } : TagFilter).accepts tag = (tag.id == id) := by
  rw [Bool.eq_iff_iff, beq_iff_eq, eq_comm (a := tag.id)]
  simp [accepts, agrees, agreesWithin]

/-- A filter with a slug name asks for the tags with it. -/
theorem accepts_slugName (slugName : String) (tag : Tag) :
    ({ slugName := some slugName } : TagFilter).accepts tag = (tag.slugName == slugName) := by
  rw [Bool.eq_iff_iff, beq_iff_eq, eq_comm (a := tag.slugName)]
  simp [accepts, agrees, agreesWithin]

end TagFilter

namespace TagQuery

variable {rows : List Tag}

/-- One row or none is in every order. -/
theorem mergeSort_toList (row? : Option Tag) (before : Tag → Tag → Bool) :
    row?.toList.mergeSort before = row?.toList := by
  cases row? with
  | none => exact List.mergeSort_nil
  | some row => exact List.mergeSort_singleton row

/-- One id in a list asks for the available tag with it. -/
theorem byIds_singleton (hids : (rows.map Tag.id).Nodup) (id : String) :
    byIds [id] rows = (byId? id rows).toList := by
  rw [byIds]
  simp only [List.contains_cons, List.contains_nil, Bool.or_false]
  rw [filter_and_key hids, mergeSort_toList, byId?]

/-- One slug name in a list asks for the tag with it. -/
theorem byNames_singleton (hslugs : (rows.map Tag.slugName).Nodup) (slugName : String) :
    byNames [slugName] rows = (rows.find? fun t => t.slugName == slugName).toList := by
  rw [byNames]
  simp only [List.contains_cons, List.contains_nil, Bool.or_false]
  rw [filter_key hslugs, mergeSort_toList]

/-- A filter with an id asks for the available tag with it. -/
theorem filtered_id (hids : (rows.map Tag.id).Nodup) (id : String) :
    filtered { id := some id } rows = (byId? id rows).toList := by
  simp only [filtered, TagFilter.accepts_id]
  exact filter_and_key hids _ id

/-- A filter with a slug name asks for the available tag with it. -/
theorem filtered_slugName (hslugs : (rows.map Tag.slugName).Nodup) (slugName : String) :
    filtered { slugName := some slugName } rows = (bySlugName? slugName rows).toList := by
  simp only [filtered, TagFilter.accepts_slugName]
  exact filter_and_key hslugs _ slugName

/-- As many tags as can be asked for are a number that the store understands. -/
theorem toNat_le_maxSigned {limit : UInt64} (hmost : limit ≤ 100) : limit.toNat ≤ maxSigned :=
  Nat.le_trans (UInt64.le_iff_toNat_le.mp hmost) (by decide)

/-- The empty name is completed by the first recommended tags that are available. -/
theorem completions_empty {limit : UInt64} (hlimit : limit.toNat ≤ maxSigned) :
    completions "" limit true rows =
      ((recommended rows).filter Tag.isAvailable).take limit.toNat := by
  rw [completions, limited, if_pos hlimit, recommended,
    Sorting.filter_mergeSort Tag.slugNotAfter_trans Tag.slugNotAfter_total, List.filter_filter]
  congr 3
  funext t
  simp [completes]

/-- Without a search text the available tags can be paged through that are no synonyms. -/
theorem matching_empty :
    matching .empty rows = (filtered .empty rows).filter fun t => !t.isSynonym := by
  rw [← filter_pageable, filtered, List.filter_filter]
  refine List.filter_congr fun t _ => ?_
  have hrest : ({ TagFilter.empty with slugName := none } : TagFilter) = .empty := rfl
  have hfound : found TagFilter.empty.slugName t = true := rfl
  rw [pageable, hrest, hfound, TagFilter.accepts_empty, Bool.and_true, Bool.and_true, Bool.and_true,
    Bool.and_comm]

/-- Changing the rows of every page changes those of all pages. -/
theorem allPages_map (page : UInt64 → List Tag) (change : Tag → Tag) (count : Nat) :
    allPages (fun n => (page n).map change) count = (allPages page count).map change := by
  rw [allPages, allPages, List.map_flatten, List.map_map]
  rfl

end TagQuery

namespace Catalog

/-- A tag that has to be there is answered if it is found. -/
theorem expect_eq_ok_iff {name : String} {found : Option Tag} {tag : Tag} :
    expect name (.ok found) = .ok tag ↔ found = some tag := by
  cases found <;> simp [expect]

/-- A tag that has to be there is named if it is not found. -/
theorem expect_eq_tagNotFound_iff {name : String} {found : Option Tag} :
    expect name (.ok found) = .error (.tagNotFound name) ↔ found = none := by
  cases found <;> simp [expect]

end Catalog

namespace Store

open TagQuery

/-- Whether a tag is stored. -/
def Holds (s : Store) (tag : Tag) : Prop := ∃ rows, s.rows? Tag = some rows ∧ tag ∈ rows

/-- The tags that are stored are the rows of their table. -/
theorem holds_iff {s : Store} {rows : List Tag} (hrows : s.rows? Tag = some rows) {tag : Tag} :
    s.Holds tag ↔ tag ∈ rows := by
  simp only [Holds, hrows, Option.some.injEq, exists_eq_left']

/-- **That pages of a size hold some tags**: none holds another one, and up to the last of them they
hold each of the tags once, if these are as many as the store can number. -/
structure HoldAll (page : UInt64 → List Tag) (size : Nat) (tags : List Tag) : Prop where
  subset : ∀ n, page n ⊆ tags
  perm : tags.length ≤ maxSigned → (allPages page (pageCount tags.length size)).Perm tags

namespace HoldAll

variable {page : UInt64 → List Tag} {size : Nat} {tags : List Tag}

/-- Pages whose tags are changed hold the tags with the change. -/
theorem map (h : HoldAll page size tags) (change : Tag → Tag) :
    HoldAll (fun n => (page n).map change) size (tags.map change) := by
  refine ⟨fun n => List.map_subset change (h.subset n), fun hcount => ?_⟩
  rw [List.length_map] at hcount ⊢
  rw [allPages_map]
  exact (h.perm hcount).map change

/-- **The pages for a filter** hold the tags that can be paged through. -/
theorem rows_page {rows : List Tag} (hslugs : (rows.map Tag.slugName).Nodup) (pageSize : UInt64)
    (filter : TagFilter) (sort : TagSort) :
    HoldAll (fun n => (TagQuery.page n pageSize filter sort rows).1) (rowsPerPage pageSize)
      (matching filter rows) := by
  refine ⟨fun n => ?_, fun hcount => ?_⟩
  · rw [← filter_pageable]
    exact page_subset_filter n pageSize filter sort
  · have hpaging : IsPaging (matching filter rows) (rowsPerPage pageSize) sort
        fun n => (TagQuery.page n pageSize filter sort rows).1 :=
      isPaging_page hslugs hcount pageSize sort
    exact hpaging.perm

end HoldAll

/-- **That the reads of the catalog agree** in a store, with one source of the setting for all of
them. -/
structure ReadsAgree (s : Store) (source : SettingSource) : Prop where
  /-- One tag is answered by its id in four ways: the stored one, if it is available. -/
  byId : ∀ id tag, List.TFAE
    [Catalog.getTag source id s = .ok tag,
      Catalog.getTagsByIds source [id] s = .ok [tag],
      Catalog.getTags source { id := some id } s = .ok [tag],
      Catalog.getTagAnyStatus source id s = .ok tag ∧ tag.status = .available,
      ∃ stored, s.Holds stored ∧ stored.id = id ∧ stored.status = .available ∧
        stored.masked (source.effective s) = tag]
  /-- Or it is not, in three. -/
  missing : ∀ id, List.TFAE
    [Catalog.getTag source id s = .error (.tagNotFound id),
      Catalog.getTagsByIds source [id] s = .ok [],
      Catalog.getTags source { id := some id } s = .ok []]
  /-- There is no other answer. -/
  answered : ∀ id, (∃ tag, Catalog.getTag source id s = .ok tag) ∨
    Catalog.getTag source id s = .error (.tagNotFound id)
  /-- One tag is answered by its slug name in three ways. -/
  bySlugName : ∀ slugName tag, List.TFAE
    [Catalog.getTagBySlugName source slugName s = .ok tag,
      Catalog.getTags source { slugName := some slugName } s = .ok [tag],
      Catalog.getTagsBySlugNames source [slugName] s = .ok [tag] ∧ tag.status = .available,
      ∃ stored, s.Holds stored ∧ stored.slugName = slugName ∧ stored.status = .available ∧
        stored.masked (source.effective s) = tag]
  /-- The completions of the empty name are the first recommended tags that are available. -/
  completions : ∀ limit : UInt64, 1 ≤ limit → limit ≤ 100 → ∃ tags,
    Catalog.getRecommendTags source s = .ok tags ∧
    Catalog.searchTags source ⟨"", limit, true⟩ s =
      .ok ((tags.filter Tag.isAvailable).take limit.toNat)
  /-- The pages without a search text hold the tags that are no synonyms. -/
  pages : ∀ (pageSize : UInt64) (slugName : Option String) (queryCond : String),
    1 ≤ pageSize → pageSize ≤ 100 → slugName = none ∨ slugName = some "" → ∃ tags page,
      Catalog.getTags source .empty s = .ok tags ∧
      (∀ n, 1 ≤ n → Catalog.getTagPage source ⟨n, pageSize, slugName, queryCond⟩ s =
        .ok (page n, (tags.filter fun tag => !tag.isSynonym).length)) ∧
      HoldAll page pageSize.toNat (tags.filter fun tag => !tag.isSynonym)

/-- A tag is found among the available ones and masked exactly if it is found, masked, and
available. -/
theorem map_masked_filter_eq_some_iff {found : Option Tag} {tagRequired : Bool} {tag : Tag} :
    (found.filter Tag.isAvailable).map (Tag.masked tagRequired) = some tag ↔
      found.map (Tag.masked tagRequired) = some tag ∧ tag.status = .available := by
  have hmask : Tag.isAvailable ∘ Tag.masked tagRequired = Tag.isAvailable :=
    funext fun t => t.masked_isAvailable tagRequired
  have hstatus : tag.isAvailable = true ↔ tag.status = .available := beq_iff_eq
  rw [← hstatus, ← Option.filter_eq_some_iff, Option.filter_map, hmask]

/-- One statement, however often it is made. -/
theorem tfae_replicate (n : Nat) (p : Prop) : (List.replicate n p).TFAE :=
  List.tfae_of_forall p _ fun _ ha => iff_of_eq (List.eq_of_mem_replicate ha)

section

variable {s : Store} {rows : List Tag} (hrows : s.rows? Tag = some rows) (source : SettingSource)

include hrows

/-- The available tag with an id, as it is answered. -/
theorem getTag_eq (id : String) :
    Catalog.getTag source id s =
      Catalog.expect id (.ok ((byId? id rows).map (Tag.masked (source.effective s)))) := by
  rw [Catalog.getTag, tagById, readTag_eq hrows]

/-- One id in a list is answered with the available tag with it, if there is one. -/
theorem getTagsByIds_singleton (hids : (rows.map Tag.id).Nodup) (id : String) :
    Catalog.getTagsByIds source [id] s =
      .ok ((byId? id rows).map (Tag.masked (source.effective s))).toList := by
  rw [Catalog.getTagsByIds, tagsByIds, readTags_eq hrows, byIds_singleton hids, Option.toList_map]

/-- A filter with an id is answered with the available tag with it, if there is one. -/
theorem getTags_id (hids : (rows.map Tag.id).Nodup) (id : String) :
    Catalog.getTags source { id := some id } s =
      .ok ((byId? id rows).map (Tag.masked (source.effective s))).toList := by
  rw [Catalog.getTags, tagsWhere, readTags_eq hrows, filtered_id hids, Option.toList_map]

/-- The stored tag with a key, masked, if it is available. -/
theorem exists_holds_iff {key : Tag → String} (hkeys : (rows.map key).Nodup) (k : String)
    (tag : Tag) :
    (∃ stored, s.Holds stored ∧ key stored = k ∧ stored.status = .available ∧
      stored.masked (source.effective s) = tag) ↔
      ((rows.find? fun t => key t == k).filter Tag.isAvailable).map
        (Tag.masked (source.effective s)) = some tag := by
  have hstatus (stored : Tag) : stored.isAvailable = true ↔ stored.status = .available :=
    beq_iff_eq
  simp only [Option.map_eq_some_iff, Option.filter_eq_some_iff, find?_key_eq_some_iff hkeys,
    holds_iff hrows, hstatus, and_assoc]

/-- **A tag by its id**, in four ways. -/
theorem tfae_byId (hids : (rows.map Tag.id).Nodup) (id : String) (tag : Tag) : List.TFAE
    [Catalog.getTag source id s = .ok tag,
      Catalog.getTagsByIds source [id] s = .ok [tag],
      Catalog.getTags source { id := some id } s = .ok [tag],
      Catalog.getTagAnyStatus source id s = .ok tag ∧ tag.status = .available,
      ∃ stored, s.Holds stored ∧ stored.id = id ∧ stored.status = .available ∧
        stored.masked (source.effective s) = tag] := by
  have hany : byId? id rows = (byIdAnyStatus? id rows).filter Tag.isAvailable :=
    find?_and_key hids _ id
  rw [getTag_eq hrows, getTagsByIds_singleton hrows source hids, getTags_id hrows source hids,
    Catalog.getTagAnyStatus, tagByIdAnyStatus, readTag_eq hrows, Catalog.expect_eq_ok_iff,
    Catalog.expect_eq_ok_iff, Except.ok.injEq, Option.toList_eq_singleton_iff, hany,
    exists_holds_iff hrows source hids, ← byIdAnyStatus?, map_masked_filter_eq_some_iff]
  exact tfae_replicate 5 _

/-- No tag by an id, in three ways. -/
theorem tfae_missing (hids : (rows.map Tag.id).Nodup) (id : String) : List.TFAE
    [Catalog.getTag source id s = .error (.tagNotFound id),
      Catalog.getTagsByIds source [id] s = .ok [],
      Catalog.getTags source { id := some id } s = .ok []] := by
  rw [getTag_eq hrows, getTagsByIds_singleton hrows source hids, getTags_id hrows source hids,
    Catalog.expect_eq_tagNotFound_iff, Except.ok.injEq, Option.toList_eq_nil_iff]
  exact tfae_replicate 3 _

/-- **A tag by its slug name**, in three ways. -/
theorem tfae_bySlugName (hslugs : (rows.map Tag.slugName).Nodup) (slugName : String) (tag : Tag) :
    List.TFAE
      [Catalog.getTagBySlugName source slugName s = .ok tag,
        Catalog.getTags source { slugName := some slugName } s = .ok [tag],
        Catalog.getTagsBySlugNames source [slugName] s = .ok [tag] ∧ tag.status = .available,
        ∃ stored, s.Holds stored ∧ stored.slugName = slugName ∧ stored.status = .available ∧
          stored.masked (source.effective s) = tag] := by
  have havailable : bySlugName? slugName rows =
      (rows.find? fun t => t.slugName == slugName).filter Tag.isAvailable :=
    find?_and_key hslugs _ slugName
  rw [Catalog.getTagBySlugName, tagBySlugName, readTag_eq hrows, Catalog.expect_eq_ok_iff,
    Catalog.getTags, tagsWhere, readTags_eq hrows, filtered_slugName hslugs, ← Option.toList_map,
    Except.ok.injEq, Option.toList_eq_singleton_iff, Catalog.getTagsBySlugNames, tagsByNames,
    readTags_eq hrows, byNames_singleton hslugs, ← Option.toList_map, Except.ok.injEq,
    Option.toList_eq_singleton_iff, havailable, exists_holds_iff hrows source hslugs,
    map_masked_filter_eq_some_iff]
  exact tfae_replicate 4 _

/-- **Name completion** answers the tags that complete a name, masked, to all requests in bounds. -/
theorem searchTags_eq {limit : UInt64} (hleast : 1 ≤ limit) (hmost : limit ≤ 100) (name : String)
    (hasReserved : Bool) :
    Catalog.searchTags source ⟨name, limit, hasReserved⟩ s =
      .ok ((TagQuery.completions name limit hasReserved rows).map
        (Tag.masked (source.effective s))) := by
  have hnone := (SearchRequest.violations_eq_nil_iff ⟨name, limit, hasReserved⟩).mpr
    ⟨hleast, hmost⟩
  rw [Catalog.searchTags, hnone]
  exact readTags_eq hrows _ _ _

/-- **The completions of the empty name.** -/
theorem completions_agree {limit : UInt64} (hleast : 1 ≤ limit) (hmost : limit ≤ 100) :
    ∃ tags, Catalog.getRecommendTags source s = .ok tags ∧
      Catalog.searchTags source ⟨"", limit, true⟩ s =
        .ok ((tags.filter Tag.isAvailable).take limit.toNat) := by
  refine ⟨_, readTags_eq hrows _ _ _, ?_⟩
  rw [searchTags_eq hrows source hleast hmost, completions_empty (toNat_le_maxSigned hmost),
    List.filter_map, List.map_take]
  simp only [Function.comp_def, Tag.masked_isAvailable]

/-- **The pages without a search text.** -/
theorem pages_agree (hslugs : (rows.map Tag.slugName).Nodup) {pageSize : UInt64}
    {slugName : Option String} (hleast : 1 ≤ pageSize) (hmost : pageSize ≤ 100)
    (hsearch : slugName = none ∨ slugName = some "") (queryCond : String) : ∃ tags page,
      Catalog.getTags source .empty s = .ok tags ∧
      (∀ n, 1 ≤ n → Catalog.getTagPage source ⟨n, pageSize, slugName, queryCond⟩ s =
        .ok (page n, (tags.filter fun tag => !tag.isSynonym).length)) ∧
      HoldAll page pageSize.toNat (tags.filter fun tag => !tag.isSynonym) := by
  have hlisted : ((filtered .empty rows).map (Tag.masked (source.effective s))).filter
      (fun tag => !tag.isSynonym) =
        (matching .empty rows).map (Tag.masked (source.effective s)) := by
    rw [matching_empty, List.filter_map]
    simp only [Function.comp_def, Tag.masked_isSynonym]
  have hfilter : slugName.filter (· ≠ "") = none := by
    rcases hsearch with rfl | rfl <;> rfl
  refine ⟨_, fun n => (TagQuery.page n pageSize .empty (TagSort.ofQuery queryCond) rows).1.map
    (Tag.masked (source.effective s)), readTags_eq hrows _ _ _, ?_, ?_⟩
  · intro n hn
    have hnone := (TagPageRequest.violations_eq_nil_iff ⟨n, pageSize, slugName, queryCond⟩).mpr
      ⟨hn, hleast, hmost⟩
    rw [Catalog.getTagPage, hnone, hlisted, List.length_map, ← filter_pageable]
    simp only [hfilter]
    exact tagPage_eq hrows _ _ _ _ _
  · have hsize : rowsPerPage pageSize = pageSize.toNat :=
      Nat.max_eq_left (UInt64.le_iff_toNat_le.mp hleast)
    rw [hlisted, ← hsize]
    exact (HoldAll.rows_page hslugs pageSize .empty (TagSort.ofQuery queryCond)).map _

end

/-- **The reads of the catalog agree in every run**, whatever the setting is and wherever it is
read. -/
theorem readsAgree_afterCalls (calls : List ((α : Type) × Call α)) (source : SettingSource) :
    (afterCalls calls).ReadsAgree source := by
  obtain ⟨rows, hrows, hconsistent⟩ := hasConsistentTags_afterCalls calls
  exact {
    byId := tfae_byId hrows source hconsistent.ids
    missing := tfae_missing hrows source hconsistent.ids
    answered := fun id => by
      rw [getTag_eq hrows]
      cases byId? id rows with
      | none => exact .inr rfl
      | some tag => exact .inl ⟨_, rfl⟩
    bySlugName := tfae_bySlugName hrows source hconsistent.slugNames
    completions := fun limit hleast hmost => completions_agree hrows source hleast hmost
    pages := fun pageSize slugName queryCond hleast hmost hsearch =>
      pages_agree hrows source hconsistent.slugNames hleast hmost hsearch queryCond }

end Store

end TagTimeline
