import TagTimeline.Proofs.Store.Call
import TagTimeline.Proofs.Tag.Masking

/-!
# Removed Tags

A tag is removed by its status, and only overwriting it with another status brings it back: no
other write touches a status, whatever it does to the link, the flags or the counts of a deleted
tag. Six of the reads choose among the available tags and so answer as if the tag were not stored,
numbers of tags included. The other four do not look at the status.

## Main results

* `TagWrite.status_change` — what can bring a tag back.
* `TagRead.selected_filter_isAvailable` — what the reads of available tags depend on.
* `Store.showsDeleted_afterCalls` — what clients see of a removed tag in every continuation.
-/

namespace TagTimeline

open Time

namespace TagWrite

/-- **What can bring a tag back**: only overwriting it as an available one. -/
theorem status_change (write : TagWrite) {t : Tag} (h : t.status = .deleted) :
    (write.change t).status = .deleted ∨
      ∃ tag now, write = .update tag now ∧ tag.id = t.id ∧ tag.status = .available := by
  cases write with
  | add => exact .inl h
  | update tag now =>
      by_cases hid : t.id = tag.id
      · have hstatus : (tag.overwriting now).status = tag.status := by
          rw [Tag.overwriting, Tag.withUsableLink]
          split <;> rfl
        rw [change, if_pos (beq_iff_eq.mpr hid), hstatus]
        cases htag : tag.status with
        | deleted => exact .inl rfl
        | available => exact .inr ⟨tag, now, rfl, hid.symm, htag⟩
      · rw [change, if_neg (mt beq_iff_eq.mp hid)]
        exact .inl h
  | updateAttribute names flag value =>
      rw [change]
      split
      · cases flag <;> exact .inl h
      · exact .inl h
  | remove =>
      rw [change]
      split
      · exact .inl rfl
      · exact .inl h
  | updateQuestionCount | updateSynonyms =>
      rw [change]
      split <;> exact .inl h

end TagWrite

namespace Call

variable {α : Type} {s : Store}

/-- **Whether a call brings a tag back**: it overwrites the tag as an available one and succeeds. -/
def restores (id : String) (call : Call α) (s : Store) : Bool :=
  match call.onTags? with
  | some (.update tag _) => tag.id == id && tag.status == .available && (call.run s).1.isOk
  | _ => false

/-- **A deleted tag stays deleted** unless a call brings it back. -/
theorem deleted_run {id : String} {t : Tag} (h : s.tag? id = some t)
    (hdeleted : t.status = .deleted) (call : Call α) (hkept : call.restores id s = false) :
    ∃ t', (call.run s).2.tag? id = some t' ∧ t'.status = .deleted := by
  rcases call.tag?_run h with hsame | ⟨write, hwrite, hok, hchanged⟩
  · exact ⟨t, hsame, hdeleted⟩
  · rcases write.status_change hdeleted with hstatus | ⟨tag, now, rfl, hid, havailable⟩
    · exact ⟨_, hchanged, hstatus⟩
    · rw [restores, hwrite] at hkept
      simp [hid, Store.id_of_tag? h, havailable, hok] at hkept

end Call

namespace Store

/-- **That none of some calls brings a tag back**, in the stores in which they are made. -/
def NeverRestored (id : String) : List ((α : Type) × Call α) → Store → Prop
  | [], _ => True
  | call :: more, s => call.2.restores id s = false ∧ NeverRestored id more (call.2.run s).2

/-- A tag stays deleted in a run that never brings it back. -/
theorem deleted_foldl {s : Store} {id : String} {t : Tag} (h : s.tag? id = some t)
    (hdeleted : t.status = .deleted) (calls : List ((α : Type) × Call α))
    (hkept : NeverRestored id calls s) :
    ∃ t', (calls.foldl (fun s call => (call.2.run s).2) s).tag? id = some t' ∧
      t'.status = .deleted := by
  induction calls generalizing s t with
  | nil => exact ⟨t, h, hdeleted⟩
  | cons call more ih =>
      obtain ⟨t', ht', hdeleted'⟩ := call.2.deleted_run h hdeleted hkept.1
      exact ih ht' hdeleted' hkept.2

/-- Removing a stored tag leaves it deleted. -/
theorem deleted_removeTag {s : Store} {id : String} {t : Tag} (h : s.tag? id = some t)
    (now : Timestamp) :
    ∃ t', (s.removeTag id now).2.tag? id = some t' ∧ t'.status = .deleted := by
  obtain ⟨rows, hrows, -⟩ := Option.bind_eq_some_iff.mp h
  have hok : (s.removeTag id now).1.isOk = true := by
    rw [removeTag, write_update hrows]
    rfl
  have htag := (TagWrite.remove id now).tag?_run h
  rw [TagWrite.run, if_pos hok, TagWrite.change, if_pos (beq_iff_eq.mpr (id_of_tag? h))] at htag
  exact ⟨_, htag, rfl⟩

end Store

namespace TagRead

/-- Whether a read chooses among the available tags. -/
def isAvailableOnly : TagRead → Bool
  | tag _ | tagBySlugName _ | tagsByIds _ | search _ | tags _ | page _ => true
  | tagAnyStatus _ | tagsBySlugNames _ | recommended | reserved => false

/-- Rows that have to be available are chosen from the available ones. -/
theorem filter_filter_isAvailable {keep : Tag → Bool}
    (h : ∀ t, keep t = true → t.isAvailable = true) (rows : List Tag) :
    (rows.filter Tag.isAvailable).filter keep = rows.filter keep := by
  rw [List.filter_filter]
  refine List.filter_congr fun t _ => ?_
  cases hkeep : keep t with
  | true => rw [h t hkeep, Bool.and_true]
  | false => rw [Bool.false_and]

/-- A row that has to be available is found among the available ones. -/
theorem find?_filter_isAvailable {keep : Tag → Bool}
    (h : ∀ t, keep t = true → t.isAvailable = true) (rows : List Tag) :
    (rows.filter Tag.isAvailable).find? keep = rows.find? keep := by
  rw [← List.head?_filter, filter_filter_isAvailable h, List.head?_filter]

/-- What completes a name is available. -/
theorem isAvailable_of_completes {name : String} {hasReserved : Bool} {t : Tag}
    (h : TagQuery.completes name hasReserved t = true) : t.isAvailable = true := by
  rw [TagQuery.completes, Bool.and_assoc, Bool.and_eq_true] at h
  exact h.1

/-- What can be paged through is available. -/
theorem isAvailable_of_pageable {filter : TagFilter} {t : Tag}
    (h : TagQuery.pageable filter t = true) : t.isAvailable = true := by
  rw [TagQuery.pageable, Bool.and_assoc, Bool.and_assoc, Bool.and_eq_true] at h
  exact h.1

/-- **The reads of available tags** depend on the available tags only. -/
theorem selected_filter_isAvailable {read : TagRead} (h : read.isAvailableOnly = true)
    (rows : List Tag) : read.selected (rows.filter Tag.isAvailable) = read.selected rows := by
  have hleft {keep : Tag → Bool} (t : Tag) (ht : (t.isAvailable && keep t) = true) :
      t.isAvailable = true := ((Bool.and_eq_true _ _).mp ht).1
  cases read with
  | tag id =>
      rw [selected, selected, TagQuery.byId?, find?_filter_isAvailable hleft, TagQuery.byId?]
  | tagBySlugName slugName =>
      rw [selected, selected, TagQuery.bySlugName?, find?_filter_isAvailable hleft,
        TagQuery.bySlugName?]
  | tagsByIds ids =>
      rw [selected, selected, TagQuery.byIds, filter_filter_isAvailable hleft, TagQuery.byIds]
  | tags filter =>
      rw [selected, selected, TagQuery.filtered, filter_filter_isAvailable hleft,
        TagQuery.filtered]
  | search request =>
      simp only [selected, TagQuery.completions,
        filter_filter_isAvailable fun _ => isAvailable_of_completes]
  | page request =>
      simp only [selected, TagQuery.page,
        filter_filter_isAvailable fun _ => isAvailable_of_pageable]
  | tagAnyStatus | tagsBySlugNames | recommended | reserved => cases h

end TagRead

namespace Store

/-- The store without the tag under an id. -/
def withoutTag (id : String) (s : Store) : Store :=
  match s.rows? Tag with
  | some rows => s.withRows (rows.filter fun t => t.id != id)
  | none => s

/-- **What clients see of a tag that is stored as deleted.** -/
structure ShowsDeleted (s : Store) (tag : Tag) : Prop where
  stored : s.tag? tag.id = some tag
  deleted : tag.status = .deleted
  /-- The reads of available tags answer as if the tag were not stored, rows, numbers and failures
  alike. -/
  unseen : ∀ (read : TagRead) (source : SettingSource), read.isAvailableOnly = true →
    read.answer source s = read.answer source (s.withoutTag tag.id)
  /-- And no row that they answer is the tag. -/
  absent : ∀ (read : TagRead) (source : SettingSource) (answer : TagAnswer),
    read.isAvailableOnly = true → read.answer source s = .ok answer →
    ∀ row ∈ answer.rows, row.id ≠ tag.id
  anyStatus : ∀ source : SettingSource,
    Catalog.getTagAnyStatus source tag.id s = .ok (tag.masked (source.effective s))
  /-- The reads of tags of any status answer it once, wherever they ask for it. -/
  bySlugNames : ∀ (source : SettingSource) (names : List String), ∃ tags,
    Catalog.getTagsBySlugNames source names s = .ok tags ∧
    (tags.filter fun t => t.id = tag.id) =
      if tag.slugName ∈ names then [tag.masked (source.effective s)] else []
  recommended : ∀ source : SettingSource, ∃ tags,
    Catalog.getRecommendTags source s = .ok tags ∧
    (tags.filter fun t => t.id = tag.id) =
      if tag.recommend = true then [tag.masked (source.effective s)] else []
  reserved : ∀ source : SettingSource, ∃ tags,
    Catalog.getReservedTags source s = .ok tags ∧
    (tags.filter fun t => t.id = tag.id) =
      if tag.reserved = true then [tag.masked (source.effective s)] else []
  /-- Its slug name is taken. -/
  taken : ∀ (ids : List String) (now : Timestamp) (new : List NewTag), new.length ≤ ids.length →
    (∃ made ∈ new, made.slugName = tag.slugName) →
    ∃ e, Catalog.addTags ids now new s = (.error e, s)

variable {s : Store} {rows : List Tag} {tag : Tag}

/-- Exchanging tags does not touch the setting. -/
theorem effective_withRows (source : SettingSource) (rows : List Tag) :
    source.effective (s.withRows rows) = source.effective s := by
  cases source <;> rfl

/-- Chosen rows, sorted and masked, hold a stored tag once, if it is chosen. -/
theorem filter_map_masked (hconsistent : Tag.Consistent rows) (htag : tag ∈ rows)
    (keep : Tag → Bool) (before : Tag → Tag → Bool) (tagRequired : Bool) :
    (((rows.filter keep).mergeSort before).map (Tag.masked tagRequired)).filter
        (fun t => t.id = tag.id) =
      if keep tag = true then [tag.masked tagRequired] else [] := by
  have hperm : (((rows.filter keep).mergeSort before).filter fun t => t.id = tag.id).Perm
      ([tag].filter keep) := by
    rw [← hconsistent.filter_eq htag, List.filter_comm]
    exact (List.mergeSort_perm _ before).filter _
  rw [List.filter_map]
  simp only [Function.comp_def, Tag.masked_id]
  by_cases hkeep : keep tag = true
  · rw [List.filter_cons_of_pos hkeep, List.filter_nil, List.perm_singleton] at hperm
    rw [if_pos hkeep, hperm, List.map_singleton]
  · rw [List.filter_cons_of_neg hkeep, List.filter_nil, List.perm_nil] at hperm
    rw [if_neg hkeep, hperm, List.map_nil]

/-- A new tag under a slug name that is taken cannot be stored. -/
theorem addTags_of_taken (h : s.rows? Tag = some rows) (htag : tag ∈ rows) {ids : List String}
    {new : List NewTag} (hids : new.length ≤ ids.length) (now : Timestamp)
    (htaken : ∃ made ∈ new, made.slugName = tag.slugName) :
    ∃ e, s.addTags ids now new = (.error e, s) := by
  rcases addTags_eq h ids now new with ⟨hallowed, -⟩ | ⟨-, e, herror⟩
  · obtain ⟨made, hmade, hname⟩ := htaken
    obtain ⟨i, hi, rfl⟩ := List.mem_iff_getElem.mp hmade
    have hstored : new[i].toTag ids[i] now ∈ NewTag.made ids now new := by
      have hlength : i < (NewTag.made ids now new).length := by
        rw [NewTag.made, List.length_zipWith]
        omega
      exact List.mem_iff_getElem.mpr ⟨i, hlength, List.getElem_zipWith⟩
    have hclash := hallowed.1 _ hstored tag htag
    exact absurd hname.symm (Tag.clash?_eq_none_iff.mp hclash).2
  · exact ⟨e, herror⟩

/-- **The reads of available tags** do not notice a tag that is not available. -/
theorem answer_withoutTag (h : s.rows? Tag = some rows) {id : String}
    (hdeleted : ∀ t ∈ rows, t.id = id → t.isAvailable = false) {read : TagRead}
    (hread : read.isAvailableOnly = true) (source : SettingSource) :
    read.answer source s = read.answer source (s.withoutTag id) := by
  have hwithout : s.withoutTag id = s.withRows (rows.filter fun t => t.id != id) := by
    rw [withoutTag, h]
  have hsame : (rows.filter fun t => t.id != id).filter Tag.isAvailable =
      rows.filter Tag.isAvailable := by
    rw [List.filter_filter]
    refine List.filter_congr fun t ht => ?_
    by_cases hid : t.id = id
    · rw [hdeleted t ht hid, Bool.false_and]
    · rw [bne_iff_ne.mpr hid, Bool.and_true]
  -- both answers are selected from the same available tags
  rw [TagRead.answer_eq h, hwithout, TagRead.answer_eq (rows?_withRows h _), effective_withRows,
    ← TagRead.selected_filter_isAvailable hread rows, ← hsame,
    TagRead.selected_filter_isAvailable hread]

/-- **A deleted tag that is stored** is seen as deleted. -/
theorem showsDeleted_of_tag? (h : s.HasConsistentTags) (htag : s.tag? tag.id = some tag)
    (hdeleted : tag.status = .deleted) : s.ShowsDeleted tag := by
  obtain ⟨rows, hrows, hconsistent⟩ := h
  have hfind : rows.find? (fun t => t.id == tag.id) = some tag := by
    rwa [tag?, hrows, Option.bind_some] at htag
  have hmem : tag ∈ rows := List.mem_of_find?_eq_some hfind
  have hunseen : ∀ t ∈ rows, t.id = tag.id → t.isAvailable = false := by
    intro t ht hid
    obtain rfl := List.inj_on_of_nodup_map hconsistent.ids ht hmem hid
    rw [Tag.isAvailable, hdeleted]
    rfl
  refine ⟨htag, hdeleted, fun read source hread => answer_withoutTag hrows hunseen hread source,
    ?_, ?_, ?_, ?_, ?_, ?_⟩
  · intro read source answer hread hanswer row hrow hid
    rw [answer_withoutTag hrows hunseen hread, withoutTag, hrows] at hanswer
    obtain ⟨stored, hstored, rfl⟩ :=
      TagRead.exists_stored_of_mem_answer (rows?_withRows hrows _) hanswer hrow
    rw [Tag.masked_id] at hid
    simpa [hid] using (List.mem_filter.mp hstored).2
  · intro source
    rw [Catalog.getTagAnyStatus, tagByIdAnyStatus, readTag_eq hrows, TagQuery.byIdAnyStatus?, hfind]
    rfl
  · intro source names
    refine ⟨_, readTags_eq hrows _ _ _, ?_⟩
    rw [TagQuery.byNames, filter_map_masked hconsistent hmem]
    simp only [List.contains_iff_mem]
  · intro source
    exact ⟨_, readTags_eq hrows _ _ _, filter_map_masked hconsistent hmem _ _ _⟩
  · intro source
    exact ⟨_, readTags_eq hrows _ _ _, filter_map_masked hconsistent hmem _ _ _⟩
  · intro ids now new hids htaken
    exact addTags_of_taken hrows hmem hids now htaken

/-- **A removed tag stays out of sight.** Wherever a stored tag is removed, it is seen as deleted
behind any further calls, as long as none of them overwrites it as an available tag. -/
theorem showsDeleted_afterCalls (before more : List ((α : Type) × Call α)) {id : String}
    {stored : Tag} (hstored : (afterCalls before).tag? id = some stored) (now : Timestamp)
    (hmore : NeverRestored id more (afterCalls (before ++ [⟨_, .catalogRemoveTag id now⟩]))) :
    ∃ tag, tag.id = id ∧
      (afterCalls (before ++ ⟨_, .catalogRemoveTag id now⟩ :: more)).ShowsDeleted tag := by
  obtain ⟨removed, hremoved, hdeleted⟩ := deleted_removeTag hstored now
  have hafter : afterCalls (before ++ [⟨_, .catalogRemoveTag id now⟩]) =
      ((afterCalls before).removeTag id now).2 := by
    rw [afterCalls, List.foldl_append]
    rfl
  rw [hafter] at hmore
  obtain ⟨tag, htag, hstatus⟩ := deleted_foldl hremoved hdeleted more hmore
  have hrun : afterCalls (before ++ ⟨_, .catalogRemoveTag id now⟩ :: more) =
      more.foldl (fun s call => (call.2.run s).2) ((afterCalls before).removeTag id now).2 := by
    rw [afterCalls, List.foldl_append]
    rfl
  rw [← hrun] at htag
  obtain rfl : tag.id = id := id_of_tag? htag
  exact ⟨tag, rfl, showsDeleted_of_tag? (hasConsistentTags_afterCalls _) htag hstatus⟩

/-- A recommended tag. -/
def rust : NewTag := ⟨"rust", "Rust", "", "", true, false⟩

/-- Calls that do all but bring the tag back: it is stored anew, which fails, counted, made reserved
and given another name. -/
def meddling : List ((α : Type) × Call α) :=
  [⟨_, .catalogAddTags ["t2"] .epoch [rust]⟩,
   ⟨_, .catalogUpdateQuestionCount "t1" 7⟩,
   ⟨_, .catalogUpdateAttribute ["rust"] "reserved" true⟩,
   ⟨_, .catalogUpdateTag { rust.toTag "t1" .epoch with slugName := "ferris", status := .deleted }
      .epoch⟩]

/-- The tag is then seen as deleted under its new name. -/
theorem showsDeleted_afterCalls_renamed :
    ∃ tag, tag.id = "t1" ∧ (afterCalls ([⟨_, .catalogAddTags ["t1"] .epoch [rust]⟩] ++
      ⟨_, .catalogRemoveTag "t1" .epoch⟩ :: meddling)).ShowsDeleted tag ∧
      tag.slugName = "ferris" := by
  obtain ⟨tag, hid, hshows⟩ := @showsDeleted_afterCalls
    [⟨_, .catalogAddTags ["t1"] .epoch [rust]⟩] meddling "t1" (rust.toTag "t1" .epoch) rfl .epoch
    ⟨rfl, rfl, rfl, rfl, trivial⟩
  have hstored := hshows.stored
  rw [hid] at hstored
  cases hstored
  exact ⟨_, hid, hshows, rfl⟩

end Store

end TagTimeline
