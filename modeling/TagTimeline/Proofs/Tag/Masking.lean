import TagTimeline.Proofs.Store.Reachable

/-!
# Masked Reads

What readers see of the stored tags. Each of the ten reads of the catalog is split in two: what it
selects from the stored rows, which no setting has a part in, and the mask that is put on every row
of the answer. So the rows of an answer, their order and their number, and the failures of a read,
are those of the same read while the site requires tags.

## Main results

* `TagRead.answer_eq` — a read as a selection of stored rows that is masked afterwards.
* `TagRead.answer_after` — what readers see of a stored recommendation in every reachable store.
-/

namespace TagTimeline

open Time

/-- **A read of the catalog**, with its arguments. -/
inductive TagRead where
  | tag (id : String)
  | tagAnyStatus (id : String)
  | tagBySlugName (slugName : String)
  | tagsByIds (ids : List String)
  | tagsBySlugNames (names : List String)
  | search (request : SearchRequest)
  | recommended
  | reserved
  | tags (filter : TagFilter)
  | page (request : TagPageRequest)

/-- **What a read answers**: some tags in an order, and with a page the number of tags on all
pages. -/
structure TagAnswer where
  rows : List Tag
  count : Option Nat

namespace TagAnswer

/-- The answer of one tag. -/
def one (tag : Tag) : TagAnswer := ⟨[tag], none⟩

/-- The answer of a list of tags. -/
def list (tags : List Tag) : TagAnswer := ⟨tags, none⟩

/-- The answer of a page of tags. -/
def page (tags : List Tag × Nat) : TagAnswer := ⟨tags.1, some tags.2⟩

/-- An answer with every tag changed; their order and the number of all tags stay. -/
def mapRows (change : Tag → Tag) (answer : TagAnswer) : TagAnswer :=
  { answer with rows := answer.rows.map change }

/-- A change that changes nothing. -/
@[simp] theorem mapRows_id (answer : TagAnswer) : answer.mapRows (fun row => row) = answer := by
  rw [mapRows, List.map_id']

end TagAnswer

namespace Tag

/-- A mask leaves the id of a tag. -/
@[simp] theorem masked_id (tagRequired : Bool) (tag : Tag) :
    (tag.masked tagRequired).id = tag.id := by
  cases tagRequired <;> rfl

/-- A mask leaves the status of a tag. -/
@[simp] theorem masked_isAvailable (tagRequired : Bool) (tag : Tag) :
    (tag.masked tagRequired).isAvailable = tag.isAvailable := by
  cases tagRequired <;> rfl

/-- A mask leaves the link of a tag. -/
@[simp] theorem masked_isSynonym (tagRequired : Bool) (tag : Tag) :
    (tag.masked tagRequired).isSynonym = tag.isSynonym := by
  cases tagRequired <;> rfl

end Tag

namespace TagRead

/-- The read of a client whose setting is read from a source. -/
def answer (read : TagRead) (source : SettingSource) (s : Store) :
    Except ServiceError TagAnswer :=
  match read with
  | tag id => (Catalog.getTag source id s).map .one
  | tagAnyStatus id => (Catalog.getTagAnyStatus source id s).map .one
  | tagBySlugName slugName => (Catalog.getTagBySlugName source slugName s).map .one
  | tagsByIds ids => (Catalog.getTagsByIds source ids s).map .list
  | tagsBySlugNames names => (Catalog.getTagsBySlugNames source names s).map .list
  | search request => (Catalog.searchTags source request s).map .list
  | recommended => (Catalog.getRecommendTags source s).map .list
  | reserved => (Catalog.getReservedTags source s).map .list
  | tags filter => (Catalog.getTags source filter s).map .list
  | page request => (Catalog.getTagPage source request s).map .page

/-- **What a read selects from the stored tags**, all of them as they are stored. -/
def selected (read : TagRead) (rows : List Tag) : Except ServiceError TagAnswer :=
  match read with
  | tag id => (Catalog.expect id (.ok (TagQuery.byId? id rows))).map .one
  | tagAnyStatus id => (Catalog.expect id (.ok (TagQuery.byIdAnyStatus? id rows))).map .one
  | tagBySlugName slugName =>
      (Catalog.expect slugName (.ok (TagQuery.bySlugName? slugName rows))).map .one
  | tagsByIds ids => .ok (.list (TagQuery.byIds ids rows))
  | tagsBySlugNames names => .ok (.list (TagQuery.byNames names rows))
  | search request =>
      match request.violations with
      | [] => .ok (.list (TagQuery.completions request.name request.limit request.hasReserved rows))
      | violations => .error (Catalog.refusal violations)
  | recommended => .ok (.list (TagQuery.recommended rows))
  | reserved => .ok (.list (TagQuery.reserved rows))
  | tags filter => .ok (.list (TagQuery.filtered filter rows))
  | page request =>
      match request.violations with
      | [] =>
          .ok (.page (TagQuery.page request.page request.pageSize
            { slugName := request.slugName.filter (· ≠ "") } (TagSort.ofQuery request.queryCond)
            rows))
      | violations => .error (Catalog.refusal violations)

end TagRead

namespace Store

variable {s : Store} {rows : List Tag}

/-- Tags that are read are those that are asked for, masked. -/
theorem readTags_eq (h : s.rows? Tag = some rows) (context : String)
    (query : List Tag → List Tag) (tagRequired : Bool) :
    s.readTags context query tagRequired = .ok ((query rows).map (Tag.masked tagRequired)) :=
  select_ok_iff.mpr ⟨rows, h, rfl⟩

/-- A tag that is read is the one that is asked for, masked. -/
theorem readTag_eq (h : s.rows? Tag = some rows) (context : String)
    (query : List Tag → Option Tag) (tagRequired : Bool) :
    s.readTag context query tagRequired = .ok ((query rows).map (Tag.masked tagRequired)) :=
  select_ok_iff.mpr ⟨rows, h, rfl⟩

/-- A page that is read is the one that is asked for, its tags masked and its number not. -/
theorem tagPage_eq (h : s.rows? Tag = some rows) (page pageSize : UInt64) (filter : TagFilter)
    (sort : TagSort) (tagRequired : Bool) :
    s.tagPage page pageSize filter sort tagRequired =
      .ok ((TagQuery.page page pageSize filter sort rows).1.map (Tag.masked tagRequired),
        (TagQuery.page page pageSize filter sort rows).2) :=
  select_ok_iff.mpr ⟨rows, h, rfl⟩

end Store

namespace TagRead

variable {s : Store} {rows : List Tag}

/-- A tag that has to be there, masked. -/
theorem expect_masked (name : String) (found : Option Tag) (tagRequired : Bool) :
    (Catalog.expect name (.ok (found.map (Tag.masked tagRequired)))).map TagAnswer.one =
      ((Catalog.expect name (.ok found)).map TagAnswer.one).map
        (TagAnswer.mapRows (Tag.masked tagRequired)) := by
  cases found <;> rfl

/-- **A read selects stored rows and masks them afterwards.** -/
theorem answer_eq (h : s.rows? Tag = some rows) (read : TagRead) (source : SettingSource) :
    read.answer source s =
      (read.selected rows).map (TagAnswer.mapRows (Tag.masked (source.effective s))) := by
  cases read with
  | tag id => rw [selected, ← expect_masked, ← Store.readTag_eq h]; rfl
  | tagAnyStatus id => rw [selected, ← expect_masked, ← Store.readTag_eq h]; rfl
  | tagBySlugName slugName => rw [selected, ← expect_masked, ← Store.readTag_eq h]; rfl
  | tagsByIds ids => exact congrArg (Except.map TagAnswer.list) (Store.readTags_eq h _ _ _)
  | tagsBySlugNames names => exact congrArg (Except.map TagAnswer.list) (Store.readTags_eq h _ _ _)
  | recommended => exact congrArg (Except.map TagAnswer.list) (Store.readTags_eq h _ _ _)
  | reserved => exact congrArg (Except.map TagAnswer.list) (Store.readTags_eq h _ _ _)
  | tags filter => exact congrArg (Except.map TagAnswer.list) (Store.readTags_eq h _ _ _)
  | search request =>
      rw [answer, selected, Catalog.searchTags]
      cases request.violations with
      | nil => exact congrArg (Except.map TagAnswer.list) (Store.readTags_eq h _ _ _)
      | cons => rfl
  | page request =>
      rw [answer, selected, Catalog.getTagPage]
      cases request.violations with
      | nil => exact congrArg (Except.map TagAnswer.page) (Store.tagPage_eq h _ _ _ _ _)
      | cons => rfl

end TagRead

namespace TagQuery

variable {rows : List Tag}

/-- The first rows are among all rows. -/
theorem limited_subset (count : UInt64) : limited count rows ⊆ rows := by
  rw [limited]
  split
  · exact List.take_subset _ _
  · exact List.Subset.refl _

/-- The rows behind some are among all rows. -/
theorem skipping_subset (count : UInt64) : skipping count rows ⊆ rows := by
  rw [skipping]
  split
  · exact List.drop_subset _ _
  · exact List.Subset.refl _

/-- Rows that are chosen and sorted are among all rows. -/
theorem mergeSort_filter_subset (keep : Tag → Bool) (before : Tag → Tag → Bool) :
    (rows.filter keep).mergeSort before ⊆ rows :=
  fun _ ht => (List.mem_filter.mp (List.mem_mergeSort.mp ht)).1

/-- Rows in an order are the same rows. -/
theorem apply_subset (sort : TagSort) : sort.apply rows ⊆ rows := by
  intro row hrow
  cases sort with
  | unordered => exact hrow
  | popular | name | newest => exact List.mem_mergeSort.mp hrow

/-- The rows of a page are among those that can be paged through. -/
theorem page_subset_filter (page pageSize : UInt64) (filter : TagFilter) (sort : TagSort) :
    (TagQuery.page page pageSize filter sort rows).1 ⊆ rows.filter (pageable filter) :=
  fun _ hrow => apply_subset sort (skipping_subset _ (limited_subset _ hrow))

/-- The rows of a page are among all rows. -/
theorem page_subset (page pageSize : UInt64) (filter : TagFilter) (sort : TagSort) :
    (TagQuery.page page pageSize filter sort rows).1 ⊆ rows :=
  List.Subset.trans (page_subset_filter page pageSize filter sort) (List.filter_subset_self _)

end TagQuery

namespace TagRead

variable {s : Store} {rows : List Tag}

/-- A tag that has to be there is the one that is found. -/
theorem rows_expect {name : String} {found : Option Tag} {answer : TagAnswer}
    (h : (Catalog.expect name (.ok found)).map TagAnswer.one = .ok answer) :
    ∃ tag, found = some tag ∧ answer.rows = [tag] := by
  cases found with
  | none => cases h
  | some tag =>
      cases h
      exact ⟨tag, rfl, rfl⟩

/-- **What a read selects are stored rows.** -/
theorem selected_subset {read : TagRead} {answer : TagAnswer}
    (h : read.selected rows = .ok answer) : answer.rows ⊆ rows := by
  cases read with
  | tag | tagAnyStatus | tagBySlugName =>
      obtain ⟨tag, hfound, hrows⟩ := rows_expect h
      rw [hrows]
      exact List.cons_subset.mpr ⟨List.mem_of_find?_eq_some hfound, List.nil_subset _⟩
  | tagsByIds | tagsBySlugNames | recommended | reserved =>
      cases h
      exact TagQuery.mergeSort_filter_subset _ _
  | tags filter =>
      cases h
      exact List.filter_subset_self _
  | search request =>
      rw [selected] at h
      split at h
      · cases h
        exact List.Subset.trans (TagQuery.limited_subset _)
          (TagQuery.mergeSort_filter_subset _ _)
      · cases h
  | page request =>
      rw [selected] at h
      split at h
      · cases h
        exact TagQuery.page_subset _ _ _ _
      · cases h

/-- **A row of an answer is a stored row**, masked. -/
theorem exists_stored_of_mem_answer (h : s.rows? Tag = some rows) {read : TagRead}
    {source : SettingSource} {answer : TagAnswer} (hanswer : read.answer source s = .ok answer)
    {row : Tag} (hrow : row ∈ answer.rows) :
    ∃ stored ∈ rows, row = stored.masked (source.effective s) := by
  rw [answer_eq h] at hanswer
  cases hselected : read.selected rows with
  | error e =>
      rw [hselected] at hanswer
      cases hanswer
  | ok selected =>
      rw [hselected] at hanswer
      cases hanswer
      obtain ⟨stored, hstored, rfl⟩ := List.mem_map.mp hrow
      exact ⟨stored, selected_subset hselected hstored, rfl⟩

/-- **Readers see the stored recommendation and the current setting, both at once.** In every
reachable store each read answers what it answers while the site requires tags, rows, order, number
and failures alike, with nothing but the recommendations hidden if the setting is off or cannot be
read; and what it answers while the site requires tags are rows as they are stored. -/
theorem answer_after (operations : List Operation) (read : TagRead) (source : SettingSource) :
    read.answer source (Store.after operations) =
        (read.answer (.fixed true) (Store.after operations)).map (TagAnswer.mapRows fun row =>
          { row with recommend := row.recommend && source.current operations }) ∧
      (∀ e, read.answer (.failing e) (Store.after operations) =
        read.answer (.fixed false) (Store.after operations)) ∧
      ∀ answer, read.answer (.fixed true) (Store.after operations) = .ok answer →
        ∀ row ∈ answer.rows, (Store.after operations).tag? row.id = some row := by
  obtain ⟨rows, hrows, hconsistent⟩ := (Store.isSound_after operations).tags
  have hshown : read.answer (.fixed true) (Store.after operations) = read.selected rows := by
    rw [answer_eq hrows]
    cases read.selected rows with
    | error e => rfl
    | ok answer => exact congrArg Except.ok answer.mapRows_id
  refine ⟨?_, fun e => ?_, fun answer hanswer row hrow => ?_⟩
  · rw [hshown, answer_eq hrows, SettingSource.effective_after]
    simp only [← Tag.masked_eq]
  · rw [answer_eq hrows, answer_eq hrows]
    rfl
  · rw [hshown] at hanswer
    rw [Store.tag?, hrows, Option.bind_some]
    exact hconsistent.find?_eq (selected_subset hanswer hrow)

end TagRead

end TagTimeline
