import TagTimeline.Proofs.Tag.Paging

/-!
# Pages Past the End

What a page holds whatever its number. A request is checked for a page number of at least 1, and for
a size in bounds, but not for a greatest page number. So the number of tags before a page can be
more than the store understands: as a 64-bit number it begins again from 0, and a number past the
greatest signed one leaves out nothing at all. Such a page is a piece of the tags like any other,
but not the piece that its number stands for.

## Main results

* `TagQuery.leftOut_eq_self_iff` — for which pages what is left out is what lies before them.
* `TagQuery.page_eq_piece` — every page as a piece of the tags.
* `Catalog.getTagPage_eq_piece` — what the catalog answers to the requests that it accepts.
-/

namespace TagTimeline

open Time

namespace TagQuery

variable {rows : List Tag}

/-- **How many tags a page leaves out** that has some number of tags before it. -/
def leftOut (before : Nat) : Nat :=
  if before % UInt64.size ≤ maxSigned then before % UInt64.size else 0

/-- A page leaves out no more than what lies before it. -/
theorem leftOut_le (before : Nat) : leftOut before ≤ before := by
  rw [leftOut]
  split
  · exact Nat.mod_le before UInt64.size
  · exact Nat.zero_le before

/-- **A page leaves out what lies before it** exactly if the store understands the number. -/
theorem leftOut_eq_self_iff {before : Nat} : leftOut before = before ↔ before ≤ maxSigned := by
  have hbound : maxSigned < UInt64.size := by decide
  rw [leftOut]
  constructor
  · intro h
    split at h
    · omega
    · omega
  · intro h
    rw [Nat.mod_eq_of_lt (Nat.lt_of_le_of_lt h hbound), if_pos h]

/-- The tags behind those that a page leaves out. -/
theorem skipping_pageStart (page pageSize : UInt64) :
    skipping (pageStart page pageSize) rows =
      rows.drop (leftOut ((page.toNat - 1) * pageSize.toNat)) := by
  rw [skipping, toNat_pageStart, leftOut]
  split
  · rfl
  · rfl

/-- **Every page is a piece of the tags** that can be paged through, in the order asked for. -/
theorem page_eq_piece {pageSize : UInt64} (hone : 1 ≤ pageSize) (hsize : pageSize.toNat ≤ maxSigned)
    (page : UInt64) (filter : TagFilter) (sort : TagSort) (rows : List Tag) :
    TagQuery.page page pageSize filter sort rows =
      (((sort.apply (matching filter rows)).drop
        (leftOut ((page.toNat - 1) * pageSize.toNat))).take pageSize.toNat,
        (matching filter rows).length) := by
  have hmax : max pageSize 1 = pageSize := by
    rw [← UInt64.toNat_inj, UInt64.toNat_max]
    exact Nat.max_eq_left (UInt64.le_iff_toNat_le.mp hone)
  rw [TagQuery.page, filter_pageable, cut, hmax, skipping_pageStart, limited, if_pos hsize]

/-- Pieces that begin at two places have the same length if they begin at the same place, both are
empty or both are full, and only then. -/
theorem min_sub_eq_iff {size count out before : Nat} (hsize : 0 < size) (h : out ≤ before) :
    min size (count - out) = min size (count - before) ↔
      out = before ∨ count ≤ out ∨ before + size ≤ count := by
  omega

end TagQuery

namespace TagPageRequest

/-- The filter of a request: its search text. -/
def filter (request : TagPageRequest) : TagFilter :=
  { slugName := request.slugName.filter (· ≠ "") }

/-- **The tags that a request pages through**, in the order that it asks for. -/
def asked (request : TagPageRequest) (rows : List Tag) : List Tag :=
  (TagSort.ofQuery request.queryCond).apply (TagQuery.matching request.filter rows)

/-- **How many tags lie before the page** that a request asks for. -/
def before (request : TagPageRequest) : Nat := (request.page.toNat - 1) * request.pageSize.toNat

/-- A request pages through the tags that match its filter. -/
theorem asked_perm (request : TagPageRequest) (rows : List Tag) :
    (request.asked rows).Perm (TagQuery.matching request.filter rows) :=
  (TagSort.ofQuery request.queryCond).apply_perm _

end TagPageRequest

namespace Catalog

open TagQuery

variable {s : Store} {rows : List Tag}

/-- **Every page that is asked for within the rules is answered**, together with the number of all
tags that are paged through. The page holds the tags behind those that it leaves out, as many as it
has place for. So it holds as many as there are behind those that lie before it exactly if it leaves
out just these, or none is behind what it leaves out, or the page that its number stands for is
full.

It is assumed that the store takes a search text of any length. A store that limits the length of a
pattern fails of a longer one. -/
theorem getTagPage_eq_piece (hrows : s.rows? Tag = some rows) (source : SettingSource)
    (request : TagPageRequest) (hvalid : request.violations = []) :
    ∃ list, getTagPage source request s = .ok (list, (request.asked rows).length) ∧
      list = (((request.asked rows).drop (leftOut request.before)).take
        request.pageSize.toNat).map (Tag.masked (source.effective s)) ∧
      list.length =
        min request.pageSize.toNat ((request.asked rows).length - leftOut request.before) ∧
      (leftOut request.before = request.before ↔ request.before ≤ maxSigned) ∧
      (list.length =
          min request.pageSize.toNat ((request.asked rows).length - request.before) ↔
        leftOut request.before = request.before ∨
          (request.asked rows).length ≤ leftOut request.before ∨
          request.before + request.pageSize.toNat ≤ (request.asked rows).length) := by
  obtain ⟨-, hone, hmost⟩ := request.violations_eq_nil_iff.mp hvalid
  have hbound : mostTags.toNat ≤ maxSigned := by decide
  have hsize : request.pageSize.toNat ≤ maxSigned :=
    Nat.le_trans (UInt64.le_iff_toNat_le.mp hmost) hbound
  have hpos : 0 < request.pageSize.toNat := UInt64.le_iff_toNat_le.mp hone
  have hpiece := page_eq_piece hone hsize request.page request.filter
    (TagSort.ofQuery request.queryCond) rows
  have hanswer : getTagPage source request s =
      .ok ((((request.asked rows).drop (leftOut request.before)).take
        request.pageSize.toNat).map (Tag.masked (source.effective s)),
        (request.asked rows).length) := by
    rw [getTagPage, hvalid, (request.asked_perm rows).length_eq]
    exact (Store.tagPage_eq hrows ..).trans (by rw [← TagPageRequest.filter, hpiece]; rfl)
  refine ⟨_, hanswer, rfl, ?_, leftOut_eq_self_iff, ?_⟩
  · rw [List.length_map, List.length_take, List.length_drop]
  · rw [List.length_map, List.length_take, List.length_drop]
    exact min_sub_eq_iff hpos (leftOut_le request.before)

/-- A tag that can be seen. -/
def seen (name : String) : Tag := NewTag.toTag ⟨name, name, "", "", false, false⟩ name .epoch

/-- A store with some tags. -/
def holding (tags : List Tag) : Store := { Store.empty with tags := some ⟨tags, []⟩ }

/-- Five tags that can be seen. -/
def fiveTags : List Tag := [seen "go", seen "java", seen "ocaml", seen "rust", seen "zig"]

/-- A page of four that has `2 ^ 64 + 4` tags before it. -/
def wrapping : TagPageRequest := ⟨4611686018427387906, 4, none, ""⟩

/-- The page holds the tags of page 2. -/
theorem getTagPage_eq_piece_wrapping :
    ∃ list, getTagPage (.fixed false) wrapping (holding fiveTags) = .ok (list, 5) ∧
      list.map Tag.slugName = ["zig"] ∧ list.length ≠ min 4 (5 - wrapping.before) := by
  obtain ⟨list, hanswer, hlist, -, -, hlength⟩ :=
    @getTagPage_eq_piece (holding fiveTags) fiveTags rfl (.fixed false) wrapping (by decide)
  have hasked : wrapping.asked fiveTags = fiveTags := by
    rw [TagPageRequest.asked, ← filter_pageable]
    rfl
  have hout : leftOut wrapping.before = 4 := by decide
  rw [hasked] at hanswer hlist hlength
  rw [hout] at hlist hlength
  refine ⟨list, hanswer, ?_, fun heq => ?_⟩
  · rw [hlist]
    rfl
  · exact absurd (hlength.mp heq) (by decide)

/-- A page of one that has `2 ^ 63` tags before it. -/
def negative : TagPageRequest := ⟨9223372036854775809, 1, none, "name"⟩

/-- **A page far past the end can hold the tags of the first one.** The number of tags before it is
one more than the store understands. -/
theorem getTagPage_negative :
    negative.violations = [] ∧
      getTagPage (.fixed false) negative (holding [seen "go"]) = .ok ([seen "go"], 1) ∧
      getTagPage (.fixed false) { negative with page := 1 } (holding [seen "go"]) =
        .ok ([seen "go"], 1) ∧
      min negative.pageSize.toNat (1 - negative.before) = 0 := by
  refine ⟨by decide, ?_, ?_, by decide⟩
  · decide +kernel
  · decide +kernel

end Catalog

end TagTimeline
