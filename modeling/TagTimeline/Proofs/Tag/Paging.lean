import TagTimeline.Proofs.StableSort
import TagTimeline.Proofs.Tag.Masking
import TagTimeline.Proofs.Time.Order

/-!
# Paging through Tags

The pages for a filter are pieces of one list: the tags that can be paged through, in the order
that is asked for. The number of tags is counted from the same tags. So the pages, one after the
other, hold each of them once, and no page depends on another having been asked for. For that the
list may have the tags that the order does not tell apart in any order of their own, as long as it
is the same list for all pages.

Where a page begins is a product of 64-bit numbers that the store takes as a signed one. For the
pages that there are, in a table whose rows the store can number, it is the product of the natural
numbers.

## Main results

* `TagFilter.accepts_iff`, `TagQuery.pageable_iff` — which tags a filter accepts and which can be
  paged through, condition by condition.
* `TagQuery.cut_eq_piece` — a page as a piece of the list.
* `TagQuery.isPaging_cut` — the pages of every list that has the tags in the order asked for.
* `Store.tagPage_partitions` — the pages partition the tags that can be paged through.
-/

namespace TagTimeline

open Text Time

namespace TagFilter

/-- **What a filter asks of a tag**: that every field that is set is the tag's. -/
structure Holds (filter : TagFilter) (tag : Tag) : Prop where
  id : ∀ wanted, filter.id = some wanted → wanted = tag.id
  slugName : ∀ wanted, filter.slugName = some wanted → wanted = tag.slugName
  displayName : ∀ wanted, filter.displayName = some wanted → wanted = tag.displayName
  mainTagId : ∀ wanted, filter.mainTagId = some wanted → tag.mainTagId = some wanted
  mainTagSlugName :
    ∀ wanted, filter.mainTagSlugName = some wanted → tag.mainTagSlugName = some wanted
  recommend : ∀ wanted, filter.recommend = some wanted → wanted = tag.recommend
  reserved : ∀ wanted, filter.reserved = some wanted → wanted = tag.reserved
  originalText : ∀ wanted, filter.originalText = some wanted → wanted = tag.originalText
  parsedText : ∀ wanted, filter.parsedText = some wanted → wanted = tag.parsedText
  followCount : ∀ wanted, filter.followCount = some wanted → wanted = tag.followCount
  questionCount : ∀ wanted, filter.questionCount = some wanted → wanted = tag.questionCount
  revisionId : ∀ wanted, filter.revisionId = some wanted → wanted = tag.revisionId

/-- A filter accepts exactly the tags that it asks for. -/
theorem accepts_iff {filter : TagFilter} {tag : Tag} :
    filter.accepts tag = true ↔ filter.Holds tag := by
  simp only [accepts, Bool.and_eq_true, agrees_iff, agreesWithin_iff, and_assoc]
  constructor
  · rintro ⟨hid, hslug, hname, hmain, hmainName, hrec, hres, horig, hparsed, hfollow, hquestion,
      hrev⟩
    exact ⟨hid, hslug, hname, hmain, hmainName, hrec, hres, horig, hparsed, hfollow, hquestion,
      hrev⟩
  · intro h
    exact ⟨h.id, h.slugName, h.displayName, h.mainTagId, h.mainTagSlugName, h.recommend, h.reserved,
      h.originalText, h.parsedText, h.followCount, h.questionCount, h.revisionId⟩

end TagFilter

namespace TagQuery

/-- Whether a search text occurs in a text, wildcards included. -/
def Occurs (search text : String) : Prop :=
  Pattern.Matches (Pattern.visible (Pattern.containing search)) (Pattern.visible text)

/-- **What the pages for a filter ask of a tag**: that it can be seen, has no main tag, is found by
the slug name of the filter taken as a search text, unless that is empty, and is what the rest of
the filter asks for. -/
structure IsPageable (filter : TagFilter) (tag : Tag) : Prop where
  available : tag.status = .available
  noMainTag : tag.mainTagId = none
  found : ∀ search, filter.slugName = some search → search ≠ "" →
    Occurs search tag.slugName ∨ Occurs search tag.displayName
  rest : ({ filter with slugName := none } : TagFilter).Holds tag

/-- A search text finds a tag exactly if it is empty or occurs in one of the names. -/
theorem found_iff {search : Option String} {tag : Tag} :
    found search tag = true ↔ ∀ text, search = some text → text ≠ "" →
      Occurs text tag.slugName ∨ Occurs text tag.displayName := by
  cases search with
  | none => exact iff_of_true rfl fun text htext => absurd htext.symm (Option.some_ne_none text)
  | some text =>
      simp only [found, Bool.or_eq_true, String.isEmpty_iff, Pattern.like, Pattern.matches_iff,
        Option.some.injEq, forall_eq']
      rw [or_assoc, or_iff_not_imp_left]
      rfl

/-- Tags can be paged through exactly if the pages ask for them. -/
theorem pageable_iff {filter : TagFilter} {tag : Tag} :
    pageable filter tag = true ↔ IsPageable filter tag := by
  simp only [pageable, Bool.and_eq_true, found_iff, TagFilter.accepts_iff, Tag.isAvailable,
    beq_iff_eq, Tag.isSynonym, Bool.not_eq_true', Option.isSome_eq_false_iff,
    Option.isNone_iff_eq_none]
  constructor
  · rintro ⟨⟨⟨havailable, hmain⟩, hfound⟩, hrest⟩
    exact ⟨havailable, hmain, hfound, hrest⟩
  · intro h
    exact ⟨⟨⟨h.available, h.noMainTag⟩, h.found⟩, h.rest⟩

instance (filter : TagFilter) (tag : Tag) : Decidable (IsPageable filter tag) :=
  decidable_of_iff _ pageable_iff

/-- **The tags that can be paged through**, as they are stored. -/
def matching (filter : TagFilter) (rows : List Tag) : List Tag :=
  rows.filter fun tag => IsPageable filter tag

/-- The pages are made of the tags that can be paged through. -/
theorem filter_pageable (filter : TagFilter) (rows : List Tag) :
    rows.filter (pageable filter) = matching filter rows :=
  List.filter_congr fun tag _ => by rw [Bool.eq_iff_iff, pageable_iff, decide_eq_true_iff]

/-! ### Pieces of a list -/

variable {Row : Type} {rows : List Row}

/-- A list that the store can number is cut after as many rows as are asked for. -/
theorem limited_eq_take (h : rows.length ≤ maxSigned) (count : UInt64) :
    limited count rows = rows.take count.toNat := by
  rw [limited]
  split
  · rfl
  · exact (List.take_of_length_le (by omega)).symm

/-- Pieces of one size, one after the other, are the beginning of a list. -/
theorem flatten_pieces (size count : Nat) (rows : List Row) :
    ((List.range count).map fun i => (rows.drop (size * i)).take size).flatten =
      rows.take (size * count) := by
  induction count with
  | zero => rw [Nat.mul_zero, List.take_zero]; rfl
  | succ count ih =>
      rw [List.range_succ, List.map_append, List.map_singleton, List.flatten_concat, ih,
        Nat.mul_succ, List.take_add]

/-- How many pages of a size a number of rows fills, the last one perhaps in part. -/
def pageCount (count size : Nat) : Nat := (count + (size - 1)) / size

/-- A page that there is begins before the last row. -/
theorem mul_lt_of_lt_pageCount {count size i : Nat} (hsize : 0 < size)
    (hi : i < pageCount count size) : size * i < count := by
  have h : (i + 1) * size ≤ count + (size - 1) := (Nat.le_div_iff_mul_le hsize).mp hi
  rw [Nat.succ_mul, Nat.mul_comm] at h
  omega

/-- No row lies behind the last page. -/
theorem le_mul_pageCount {count size : Nat} (hsize : 0 < size) :
    count ≤ size * pageCount count size := by
  have hdiv := Nat.div_add_mod (count + (size - 1)) size
  have hmod := Nat.mod_lt (count + (size - 1)) hsize
  rw [pageCount]
  omega

/-- **The rows of the pages from 1 on**, one page after the other. -/
def allPages (page : UInt64 → List Tag) (count : Nat) : List Tag :=
  ((List.range count).map fun i => page (UInt64.ofNat (i + 1))).flatten

/-- How many rows a page of a size holds: at least one. -/
def rowsPerPage (pageSize : UInt64) : Nat := max pageSize.toNat 1

/-- A page has rows. -/
theorem rowsPerPage_pos (pageSize : UInt64) : 0 < rowsPerPage pageSize :=
  Nat.lt_of_lt_of_le Nat.zero_lt_one (Nat.le_max_right _ _)

/-- **Where a page begins**: behind the pages before it, as far as 64-bit numbers go. -/
theorem toNat_pageStart (page pageSize : UInt64) :
    (pageStart page pageSize).toNat = (page.toNat - 1) * pageSize.toNat % UInt64.size := by
  have hpages : (if page = 0 then 0 else page - 1).toNat = page.toNat - 1 := by
    split
    · next hzero => rw [hzero]; rfl
    · next hzero =>
        have hone : (1 : UInt64) ≤ page := by
          rw [UInt64.le_iff_toNat_le]
          exact Nat.one_le_iff_ne_zero.mpr fun h => hzero (UInt64.toNat_inj.mp h)
        rw [UInt64.toNat_sub_of_le _ _ hone, UInt64.toNat_one]
  rw [pageStart, UInt64.toNat_mul, hpages, Nat.mul_comm]

/-- **Where a page begins** that lies within the numbers of the store: no product overflows. -/
theorem toNat_pageStart_of_le {pageSize : UInt64} {i : Nat}
    (h : rowsPerPage pageSize * i ≤ maxSigned) :
    (pageStart (UInt64.ofNat (i + 1)) (max pageSize 1)).toNat = rowsPerPage pageSize * i := by
  have hsize : (max pageSize 1).toNat = rowsPerPage pageSize := UInt64.toNat_max pageSize 1
  have hi : i ≤ rowsPerPage pageSize * i := Nat.le_mul_of_pos_left i (rowsPerPage_pos pageSize)
  have hbound : maxSigned + 1 < UInt64.size := by decide
  have hpage : (UInt64.ofNat (i + 1)).toNat = i + 1 := UInt64.toNat_ofNat_of_lt' (by omega)
  rw [toNat_pageStart, hpage, hsize, Nat.add_sub_cancel, Nat.mul_comm]
  exact Nat.mod_eq_of_lt (Nat.lt_of_le_of_lt h (Nat.lt_of_succ_lt hbound))

end TagQuery

namespace Tag

/-- `slugNotAfter` is transitive. -/
theorem slugNotAfter_trans (a b c : Tag) (hab : slugNotAfter a b = true)
    (hbc : slugNotAfter b c = true) : slugNotAfter a c = true :=
  decide_eq_true (String.le_trans (of_decide_eq_true hab) (of_decide_eq_true hbc))

/-- Of two tags one has a slug name that does not come after the other. -/
theorem slugNotAfter_total (a b : Tag) : (slugNotAfter a b || slugNotAfter b a) = true := by
  simpa [slugNotAfter] using String.le_total a.slugName b.slugName

end Tag

namespace TagSort

/-- **What an order promises of two tags**, the first before the second. -/
def Keeps : TagSort → Tag → Tag → Prop
  | popular, a, b => b.questionCount ≤ a.questionCount
  | name, a, b => a.slugName < b.slugName
  | newest, a, b => b.createdAt.notAfter a.createdAt = true
  | unordered, _, _ => True

/-- **Whether tags are some tags in the order asked for.** Those that it does not tell apart may
come in any order. -/
structure Orders (sort : TagSort) (tags ordered : List Tag) : Prop where
  perm : ordered.Perm tags
  keeps : ordered.Pairwise sort.Keeps

/-- Ordering tags keeps every one of them. -/
theorem apply_perm (sort : TagSort) (rows : List Tag) : (sort.apply rows).Perm rows := by
  cases sort with
  | unordered => exact List.Perm.refl rows
  | popular | name | newest => exact List.mergeSort_perm rows _

/-- **Tags with distinct slug names are in the order asked for.** -/
theorem pairwise_apply (sort : TagSort) {rows : List Tag}
    (hslugs : (rows.map Tag.slugName).Nodup) : (sort.apply rows).Pairwise sort.Keeps := by
  cases sort with
  | unordered => exact List.pairwise_of_forall fun _ _ => trivial
  | popular =>
      have hsorted : (rows.mergeSort Tag.popularOrEqual).Pairwise fun a b =>
          Tag.popularOrEqual a b = true := by
        refine List.pairwise_mergeSort (fun a b c hab hbc => ?_) (fun a b => ?_) rows
        · exact decide_eq_true (Int32.le_trans (of_decide_eq_true hbc) (of_decide_eq_true hab))
        · simpa [Tag.popularOrEqual] using Int32.le_total b.questionCount a.questionCount
      exact hsorted.imp fun h => of_decide_eq_true h
  | newest =>
      have hsorted : (rows.mergeSort Tag.newerOrEqual).Pairwise fun a b =>
          Tag.newerOrEqual a b = true := by
        refine List.pairwise_mergeSort (fun a b c hab hbc => ?_) (fun a b => ?_) rows
        · exact Timestamp.notAfter_trans hbc hab
        · rw [Bool.or_eq_true]
          exact Timestamp.notAfter_total b.createdAt a.createdAt
      exact hsorted
  | name =>
      have hsorted := Sorting.pairwise_mergeSort_distinct Tag.slugNotAfter_trans
        Tag.slugNotAfter_total hslugs
      refine hsorted.imp fun {a b} h => ?_
      by_contra hlt
      exact h.2 (String.le_antisymm (of_decide_eq_true h.1) (String.not_lt.mp hlt))

/-- Tags with distinct slug names are put in order. -/
theorem orders_apply (sort : TagSort) {rows : List Tag} (hslugs : (rows.map Tag.slugName).Nodup) :
    sort.Orders rows (sort.apply rows) :=
  ⟨sort.apply_perm rows, sort.pairwise_apply hslugs⟩

/-- Where times have one offset, newest first is by descending instant. -/
theorem Orders.pairwise_notLater {tags ordered : List Tag} {offset : Int}
    (h : newest.Orders tags ordered) (hplain : ∀ tag ∈ tags, tag.createdAt.IsPlainAt offset) :
    ordered.Pairwise fun a b => b.createdAt.notLater a.createdAt = true := by
  refine h.keeps.imp_of_mem fun {a b} ha hb hab => ?_
  have hordered := fun tag (htag : tag ∈ ordered) => hplain tag (h.perm.mem_iff.mp htag)
  rw [← Timestamp.notAfter_eq_notLater (hordered b hb) (hordered a ha)]
  exact hab

end TagSort

namespace TagQuery

/-- **Pages of some tags**: pages of a size, numbered from 1, that hold each tag once, all of them
full but the last, in the order asked for. -/
structure IsPaging (tags : List Tag) (size : Nat) (sort : TagSort) (page : UInt64 → List Tag) :
    Prop where
  perm : (allPages page (pageCount tags.length size)).Perm tags
  nodup : (allPages page (pageCount tags.length size)).Nodup
  full : ∀ i, i + 1 < pageCount tags.length size → (page (UInt64.ofNat (i + 1))).length = size
  ordered : (allPages page (pageCount tags.length size)).Pairwise sort.Keeps
  /-- Where all times have one offset, as those that are stored in UTC do, and a year of four
  digits, the order of times is that of the instants. -/
  chronological : sort = .newest → ∀ offset, (∀ tag ∈ tags, tag.createdAt.IsPlainAt offset) →
      (allPages page (pageCount tags.length size)).Pairwise fun a b =>
        b.createdAt.notLater a.createdAt = true

variable {tags ordered : List Tag} {sort : TagSort}

/-- **A list cut into pieces of a size** makes pages of its tags. -/
theorem isPaging_of_pieces {size : Nat} (hsize : 0 < size) {sort : TagSort}
    {page : UInt64 → List Tag} (hslugs : (tags.map Tag.slugName).Nodup)
    (hordered : sort.Orders tags ordered) (hpage : ∀ i, size * i ≤ tags.length →
      page (UInt64.ofNat (i + 1)) = (ordered.drop (size * i)).take size) :
    IsPaging tags size sort page := by
  have hperm := hordered.perm
  have hall : allPages page (pageCount tags.length size) = ordered := by
    have hpieces : allPages page (pageCount tags.length size) =
        ((List.range (pageCount tags.length size)).map fun i =>
          (ordered.drop (size * i)).take size).flatten := by
      refine congrArg List.flatten (List.map_congr_left fun i hi => ?_)
      exact hpage i (Nat.le_of_lt (mul_lt_of_lt_pageCount hsize (List.mem_range.mp hi)))
    rw [hpieces, flatten_pieces, List.take_of_length_le]
    rw [hperm.length_eq]
    exact le_mul_pageCount hsize
  refine ⟨?_, ?_, fun i hi => ?_, ?_, fun hnewest offset hplain => ?_⟩
  · rw [hall]
    exact hperm
  · rw [hall, hperm.nodup_iff]
    exact hslugs.of_map
  · have hnext := mul_lt_of_lt_pageCount hsize hi
    rw [Nat.mul_succ] at hnext
    rw [hpage i (by omega), List.length_take, List.length_drop, hperm.length_eq]
    omega
  · rw [hall]
    exact hordered.keeps
  · rw [hall]
    exact (hnewest ▸ hordered).pairwise_notLater hplain

/-- A page begins where the pages before it end. -/
theorem cut_eq_piece {pageSize : UInt64} {i : Nat} (hcount : ordered.length ≤ maxSigned)
    (hi : rowsPerPage pageSize * i ≤ ordered.length) :
    cut (UInt64.ofNat (i + 1)) pageSize ordered =
      (ordered.drop (rowsPerPage pageSize * i)).take (rowsPerPage pageSize) := by
  have hbound := Nat.le_trans hi hcount
  have hstart := toNat_pageStart_of_le hbound
  have hsize : (max pageSize 1).toNat = rowsPerPage pageSize := UInt64.toNat_max pageSize 1
  rw [cut, skipping, if_pos (hstart.symm ▸ hbound), hstart,
    limited_eq_take (Nat.le_trans (List.length_drop ▸ Nat.sub_le _ _) hcount), hsize]

/-- **The pages of a list** that has some tags in the order asked for. -/
theorem isPaging_cut (hcount : tags.length ≤ maxSigned) (hslugs : (tags.map Tag.slugName).Nodup)
    (hordered : sort.Orders tags ordered) (pageSize : UInt64) :
    IsPaging tags (rowsPerPage pageSize) sort fun n => cut n pageSize ordered := by
  have hlength := hordered.perm.length_eq
  refine isPaging_of_pieces (rowsPerPage_pos pageSize) hslugs hordered fun i hi => ?_
  exact cut_eq_piece (hlength ▸ hcount) (hlength ▸ hi)

/-- Tags with distinct slug names that can be paged through have distinct slug names. -/
theorem nodup_slugName_matching {rows : List Tag}
    (hslugs : (rows.map Tag.slugName).Nodup) (filter : TagFilter) :
    ((matching filter rows).map Tag.slugName).Nodup :=
  hslugs.sublist (List.filter_sublist.map Tag.slugName)

/-- **The pages for a filter** are pages of the tags that can be paged through. -/
theorem isPaging_page {rows : List Tag} {filter : TagFilter}
    (hslugs : (rows.map Tag.slugName).Nodup)
    (hcount : (matching filter rows).length ≤ maxSigned) (pageSize : UInt64) (sort : TagSort) :
    IsPaging (matching filter rows) (rowsPerPage pageSize) sort
      fun n => (page n pageSize filter sort rows).1 := by
  have hmatching := nodup_slugName_matching hslugs filter
  have hpaging := isPaging_cut hcount hmatching (sort.orders_apply hmatching) pageSize
  simp only [page, filter_pageable]
  exact hpaging

end TagQuery

namespace Store

open TagQuery

/-- **The pages partition the tags that can be paged through.** For every filter, order and size of
pages, with a size of 0 counting as 1, each page is answered, page 0 as page 1, and with it the
number of all tags that can be paged through; and the pages that there are hold each of these tags
once, all pages but the last being full, in the order asked for. The catalog answers the same pages
to the requests that it accepts. The table may have as many rows as the store can number.

Tags that the order does not tell apart are answered as they are stored. But for the pages to hold
each tag once that is not needed: a store may have them in any order of its own that is the same for
all pages. It is assumed that the store takes a search text of any length. A store that limits the
length of a pattern fails of a longer one. -/
theorem tagPage_partitions {s : Store} {rows : List Tag} (hrows : s.rows? Tag = some rows)
    (hslugs : (rows.map Tag.slugName).Nodup) (hlength : rows.length ≤ maxSigned)
    (filter : TagFilter) (sort : TagSort) (pageSize : UInt64) (tagRequired : Bool) :
    ∃ page : UInt64 → List Tag,
      (∀ n, s.tagPage n pageSize filter sort tagRequired =
        .ok ((page n).map (Tag.masked tagRequired), (matching filter rows).length)) ∧
      page 0 = page 1 ∧
      IsPaging (matching filter rows) (rowsPerPage pageSize) sort page ∧
      (∀ ordered, sort.Orders (matching filter rows) ordered →
        IsPaging (matching filter rows) (rowsPerPage pageSize) sort
          fun n => cut n pageSize ordered) ∧
      ∀ (source : SettingSource) (request : TagPageRequest), request.violations = [] →
        request.pageSize = pageSize → { slugName := request.slugName.filter (· ≠ "") } = filter →
        TagSort.ofQuery request.queryCond = sort → source.effective s = tagRequired →
        Catalog.getTagPage source request s =
          .ok ((page request.page).map (Tag.masked tagRequired),
            (matching filter rows).length) := by
  have hanswer : ∀ n, s.tagPage n pageSize filter sort tagRequired =
      .ok ((TagQuery.page n pageSize filter sort rows).1.map (Tag.masked tagRequired),
        (matching filter rows).length) := fun n => by
    rw [tagPage_eq hrows, ← filter_pageable]
    rfl
  have hcount : (matching filter rows).length ≤ maxSigned :=
    Nat.le_trans (List.length_filter_le _ rows) hlength
  refine ⟨fun n => (TagQuery.page n pageSize filter sort rows).1, hanswer, rfl,
    isPaging_page hslugs hcount pageSize sort, fun ordered hordered => ?_, ?_⟩
  · exact isPaging_cut hcount (nodup_slugName_matching hslugs filter) hordered pageSize
  · rintro source request hviolations rfl rfl rfl rfl
    rw [Catalog.getTagPage, hviolations]
    exact hanswer request.page

/-- A tag that can be seen and has no main tag. -/
def mainTag (slugName : String) : Tag :=
  NewTag.toTag ⟨slugName, slugName, "", "", false, false⟩ slugName .epoch

/-- Three tags with an `o` in their names that can be paged through, one without, a synonym and a
deleted one. -/
def searchedTags : List Tag :=
  [mainTag "tokio", mainTag "go", mainTag "rust",
    { mainTag "golang" with mainTagId := some "go", mainTagSlugName := some "go" }, mainTag "cargo",
    { mainTag "cobol" with status := .deleted }]

/-- The store with these tags. -/
def searchedStore : Store := { Store.empty with tags := some ⟨searchedTags, []⟩ }

/-- The three tags that are found make two pages of two. -/
theorem tagPage_partitions_search :
    ∃ page : UInt64 → List Tag,
      (∀ n, searchedStore.tagPage n 2 { slugName := some "o" } .name true =
        .ok ((page n).map (Tag.masked true), 3)) ∧
      IsPaging (matching { slugName := some "o" } searchedTags) 2 .name page ∧
      (page 1).map Tag.slugName = ["cargo", "go"] ∧ (page 2).map Tag.slugName = ["tokio"] := by
  obtain ⟨page, hanswer, -, hpaging, -, -⟩ := @tagPage_partitions searchedStore searchedTags rfl
    (by decide) (by decide) { slugName := some "o" } .name 2 true
  have hnames : (matching { slugName := some "o" } searchedTags).map Tag.slugName =
      ["tokio", "go", "cargo"] := by
    rw [← filter_pageable]
    rfl
  have hcount : (matching { slugName := some "o" } searchedTags).length = 3 := by
    rw [← List.length_map Tag.slugName, hnames]
    rfl
  have hall : allPages page (pageCount (matching { slugName := some "o" } searchedTags).length
      (rowsPerPage 2)) = page 1 ++ page 2 := by
    rw [hcount]
    exact congrArg (page 1 ++ ·) (List.append_nil (page 2))
  have hperm : ((page 1 ++ page 2).map Tag.slugName).Perm ["tokio", "go", "cargo"] :=
    hnames ▸ (hall ▸ hpaging.perm).map Tag.slugName
  have hordered : ((page 1 ++ page 2).map Tag.slugName).Pairwise (· < ·) :=
    List.pairwise_map.mpr (hall ▸ hpaging.ordered)
  -- the names are ascending on the pages, which leaves one order for them
  have hsorted : (page 1 ++ page 2).map Tag.slugName = ["cargo", "go"] ++ ["tokio"] :=
    (hperm.trans (by decide)).eq_of_pairwise
      (fun _ _ _ _ hab hba => absurd hba (String.lt_asymm hab)) hordered (by decide)
  have hfull : (page 1).length = 2 := hpaging.full 0 (by rw [hcount]; decide)
  rw [List.map_append] at hsorted
  obtain ⟨hfirst, hsecond⟩ := List.append_inj hsorted (by rw [List.length_map, hfull]; rfl)
  exact ⟨page, fun n => hcount ▸ hanswer n, hpaging, hfirst, hsecond⟩

end Store

end TagTimeline
