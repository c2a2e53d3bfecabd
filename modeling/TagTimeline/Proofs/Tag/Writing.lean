import TagTimeline.Proofs.Keys
import TagTimeline.Proofs.Store.Writing
import TagTimeline.Store.Migration
import TagTimeline.Tag.Storage

/-!
# Writing Tags

The operations that write tags, as data. Each of them, if it is allowed on the rows that are
stored, changes every row by one and the same function and adds new rows behind them; if it is not
allowed it fails and leaves the store as it is. Whatever is proved of the tag table is proved from
this description.

## Main results

* `TagWrite.run_cases` — the two outcomes of a write.
* `TagWrite.change_id` — no write changes an id.
* `Tag.Consistent.rowsAfter` — ids and slug names stay distinct and links usable.
* `TagWrite.tag?_run` — what a write makes of one stored tag.
-/

namespace TagTimeline

open Time

/-- **An operation that writes tags**, with its arguments. -/
inductive TagWrite where
  | add (ids : List String) (now : Timestamp) (new : List NewTag)
  | remove (id : String) (now : Timestamp)
  | update (tag : Tag) (now : Timestamp)
  | updateQuestionCount (id : String) (count : Int32)
  | updateSynonyms (names : List String) (mainTagId mainTagSlugName : Option String)
  | updateAttribute (names : List String) (flag : TagAttribute) (value : Bool)

namespace Store

/-- An outcome without what is answered. -/
def unanswered {α : Type} (outcome : Outcome α) : Outcome Unit :=
  (outcome.1.map fun _ => (), outcome.2)

end Store

namespace NewTag

/-- The tags made of new ones, each under its own id. -/
def made (ids : List String) (now : Timestamp) (new : List NewTag) : List Tag :=
  List.zipWith (fun tag id => tag.toTag id now) new ids

end NewTag

namespace Tag

/-- The link of a tag does not touch its id. -/
@[simp] theorem withUsableLink_id (tag : Tag) : tag.withUsableLink.id = tag.id := by
  rw [withUsableLink]
  split <;> rfl

/-- The link of a tag does not touch its slug name. -/
@[simp] theorem withUsableLink_slugName (tag : Tag) :
    tag.withUsableLink.slugName = tag.slugName := by
  rw [withUsableLink]
  split <;> rfl

/-- The link of a tag does not touch the time at which it was made. -/
@[simp] theorem withUsableLink_createdAt (tag : Tag) :
    tag.withUsableLink.createdAt = tag.createdAt := by
  rw [withUsableLink]
  split <;> rfl

/-- What is stored of a tag that is overwritten. -/
def overwriting (tag : Tag) (now : Timestamp) : Tag :=
  { tag.withUsableLink with updatedAt := now }

/-- Two tags clash exactly if they have the same id or slug name. -/
theorem clash?_eq_none_iff {new old : Tag} :
    clash? new old = none ↔ old.id ≠ new.id ∧ old.slugName ≠ new.slugName := by
  rw [clash?]
  by_cases hid : old.id = new.id <;> by_cases hslug : old.slugName = new.slugName <;>
    simp [hid, hslug]

end Tag

namespace TagWrite

/-- The operation on a store. -/
def run : TagWrite → Store → Outcome Unit
  | add ids now new, s => Store.unanswered (s.addTags ids now new)
  | remove id now, s => s.removeTag id now
  | update tag now, s => Store.unanswered (s.updateTag tag now)
  | updateQuestionCount id count, s => s.updateQuestionCount id count
  | updateSynonyms names mainTagId mainTagSlugName, s =>
      s.updateSynonyms names mainTagId mainTagSlugName
  | updateAttribute names flag value, s => s.updateAttribute names flag value

/-- Whether an operation can be carried out on some rows: new tags must not clash with stored ones
or with each other, and a tag that is overwritten must exist and not take the slug name of
another. -/
def Allowed : TagWrite → List Tag → Prop
  | add ids now new, rows =>
      (∀ tag ∈ NewTag.made ids now new, ∀ old ∈ rows, Tag.clash? tag old = none) ∧
        (NewTag.made ids now new).Pairwise fun old tag => Tag.clash? tag old = none
  | update tag _, rows =>
      (∃ t ∈ rows, t.id = tag.id) ∧ ∀ t ∈ rows, t.id ≠ tag.id → t.slugName ≠ tag.slugName
  | _, _ => True

/-- What an operation makes of each row. -/
def change : TagWrite → Tag → Tag
  | add .., t => t
  | remove id now, t => if t.id == id then { t with status := .deleted, updatedAt := now } else t
  | update tag now, t => if t.id == tag.id then tag.overwriting now else t
  | updateQuestionCount id count, t => if t.id == id then { t with questionCount := count } else t
  | updateSynonyms names mainTagId mainTagSlugName, t =>
      if names.contains t.slugName then
        { t with
          mainTagId := Tag.linkTarget? mainTagId
          mainTagSlugName := if (Tag.linkTarget? mainTagId).isSome then mainTagSlugName else none }
      else t
  | updateAttribute names flag value, t => if names.contains t.slugName then flag.set value t else t

/-- The rows that an operation adds. -/
def added : TagWrite → List Tag
  | add ids now new => NewTag.made ids now new
  | _ => []

/-- **The rows behind an operation** that is carried out. -/
def rowsAfter (write : TagWrite) (rows : List Tag) : List Tag :=
  rows.map write.change ++ write.added

end TagWrite

namespace Store

variable {s : Store} {rows : List Tag}

/-- **New tags are stored** exactly if none clashes with a stored one or with one before it. -/
theorem addTags_eq (h : s.rows? Tag = some rows) (ids : List String) (now : Timestamp)
    (new : List NewTag) :
    ((TagWrite.add ids now new).Allowed rows ∧
      s.addTags ids now new =
        (.ok (NewTag.made ids now new), s.withRows (rows ++ NewTag.made ids now new))) ∨
    (¬ (TagWrite.add ids now new).Allowed rows ∧ ∃ e, s.addTags ids now new = (.error e, s)) := by
  cases new with
  | nil => exact .inl ⟨by simp [TagWrite.Allowed, NewTag.made], by
      rw [NewTag.made, List.zipWith_nil_left, List.append_nil, withRows_self h]; rfl⟩
  | cons tag more =>
      have hwrite := write_eq h "insert tag list"
        (Statement.insertAll Tag.clash? (NewTag.made ids now (tag :: more)))
      cases hinsert : Statement.insertAll Tag.clash? (NewTag.made ids now (tag :: more)) rows with
      | error failure =>
          rw [hinsert, NewTag.made] at hwrite
          refine .inr ⟨fun hallowed => ?_, failed "insert tag list" failure, ?_⟩
          · have hok := Statement.insertAll_eq_ok_iff.mpr ⟨hallowed, rfl⟩
            rw [hinsert] at hok
            cases hok
          · simp [addTags, hwrite]
      | ok result =>
          obtain ⟨⟨⟩, rows'⟩ := result
          rw [hinsert, NewTag.made] at hwrite
          obtain ⟨hallowed, rfl⟩ := Statement.insertAll_eq_ok_iff.mp hinsert
          exact .inl ⟨hallowed, by simp [addTags, hwrite, NewTag.made]⟩

/-- **A tag is overwritten** exactly if it exists and takes the slug name of no other. -/
theorem updateTag_eq (h : s.rows? Tag = some rows) (tag : Tag) (now : Timestamp) :
    ((TagWrite.update tag now).Allowed rows ∧
      s.updateTag tag now = (.ok (tag.overwriting now),
        s.withRows (rows.map fun t => if t.id == tag.id then tag.overwriting now else t))) ∨
    (¬ (TagWrite.update tag now).Allowed rows ∧ ∃ e, s.updateTag tag now = (.error e, s)) := by
  rw [updateTag, write_eq h, overwriteTag]
  by_cases hexists : ∃ t ∈ rows, t.id = tag.id
  · have hany : rows.any (fun t => t.id == tag.id) = true := by simpa using hexists
    by_cases htaken : ∃ t ∈ rows, t.id ≠ tag.id ∧ t.slugName = tag.slugName
    · have hslug : rows.any (fun t => t.id != tag.id && t.slugName == tag.slugName) = true := by
        simpa using htaken
      obtain ⟨t, ht, hid, hname⟩ := htaken
      refine .inr ⟨fun hallowed => hallowed.2 t ht hid hname, ?_⟩
      simp [hany, hslug]
    · have hslug : rows.any (fun t => t.id != tag.id && t.slugName == tag.slugName) = false := by
        rw [← Bool.not_eq_true]
        simpa using htaken
      refine .inl ⟨⟨hexists, fun t ht hid hname => htaken ⟨t, ht, hid, hname⟩⟩, ?_⟩
      simp [hany, hslug, Tag.overwriting]
  · have hany : rows.any (fun t => t.id == tag.id) = false := by
      rw [← Bool.not_eq_true]
      simpa using hexists
    refine .inr ⟨fun hallowed => hexists hallowed.1, ?_⟩
    simp [hany, withRows_self h]

end Store

namespace TagWrite

variable {s : Store} {rows : List Tag}

/-- An operation that adds no rows changes those that are there. -/
theorem rowsAfter_of_added_eq_nil {write : TagWrite} (h : write.added = []) :
    write.rowsAfter rows = rows.map write.change := by
  rw [rowsAfter, h, List.append_nil]

/-- **What a write does**: one that is allowed exchanges the rows for those behind it, any other
fails and leaves the store as it is. -/
theorem run_cases (h : s.rows? Tag = some rows) (write : TagWrite) :
    (write.Allowed rows ∧ write.run s = (.ok (), s.withRows (write.rowsAfter rows))) ∨
    (¬ write.Allowed rows ∧ ∃ e, write.run s = (.error e, s)) := by
  cases write with
  | add ids now new =>
      rcases Store.addTags_eq h ids now new with ⟨hallowed, hadd⟩ | ⟨hallowed, e, hadd⟩
      · refine .inl ⟨hallowed, ?_⟩
        rw [run, hadd, rowsAfter, show rows.map (add ids now new).change = rows from List.map_id _]
        rfl
      · exact .inr ⟨hallowed, e, by rw [run, hadd]; rfl⟩
  | update tag now =>
      rcases Store.updateTag_eq h tag now with ⟨hallowed, hupdate⟩ | ⟨hallowed, e, hupdate⟩
      · refine .inl ⟨hallowed, ?_⟩
        rw [run, hupdate, rowsAfter_of_added_eq_nil rfl]
        rfl
      · exact .inr ⟨hallowed, e, by rw [run, hupdate]; rfl⟩
  | remove | updateQuestionCount | updateSynonyms | updateAttribute =>
      refine .inl ⟨trivial, ?_⟩
      rw [rowsAfter_of_added_eq_nil rfl]
      exact Store.write_update h _ _ _

/-- Without a tag table no write of tags changes the store. -/
theorem snd_run_of_missing (h : s.rows? Tag = none) (write : TagWrite) : (write.run s).2 = s := by
  have hwrite := fun {α : Type} (context : String) (statement : Statement Tag α) =>
    Store.write_of_missing h context statement
  cases write with
  | add ids now new =>
      cases new with
      | nil => rfl
      | cons tag more => simp [run, Store.unanswered, Store.addTags, hwrite]
  | update tag now => simp [run, Store.unanswered, Store.updateTag, hwrite]
  | remove | updateQuestionCount | updateSynonyms | updateAttribute =>
      exact congrArg Prod.snd (hwrite _ _)

/-- **A write of tags leaves the rows of another table**, carried out or not. -/
theorem rows?_run_other {Other : Type} [Stored Other] [StoredApart Tag Other] (write : TagWrite)
    (s : Store) : (write.run s).2.rows? Other = s.rows? Other := by
  cases hrows : s.rows? Tag with
  | none => rw [write.snd_run_of_missing hrows]
  | some rows =>
      rcases write.run_cases hrows with ⟨-, hrun⟩ | ⟨-, e, hrun⟩
      · rw [hrun]
        exact Store.rows?_withRows_other s _
      · rw [hrun]

/-- **What a write makes of a row**: what overwrites it, or a row that goes by the same id and slug
name and was made at the same time. -/
theorem change_cases (write : TagWrite) (t : Tag) :
    (∃ tag now, write = update tag now ∧ t.id = tag.id ∧ write.change t = tag.overwriting now) ∨
      ((write.change t).id = t.id ∧ (write.change t).slugName = t.slugName ∧
        (write.change t).createdAt = t.createdAt) := by
  cases write with
  | add => exact .inr ⟨rfl, rfl, rfl⟩
  | update tag now =>
      by_cases hid : t.id = tag.id
      · exact .inl ⟨tag, now, rfl, hid, if_pos (beq_iff_eq.mpr hid)⟩
      · right
        rw [change, if_neg (mt beq_iff_eq.mp hid)]
        exact ⟨rfl, rfl, rfl⟩
  | updateAttribute names flag value =>
      right
      rw [change]
      split
      · cases flag <;> exact ⟨rfl, rfl, rfl⟩
      · exact ⟨rfl, rfl, rfl⟩
  | remove | updateQuestionCount | updateSynonyms =>
      right
      rw [change]
      split <;> exact ⟨rfl, rfl, rfl⟩

/-- No write changes an id. -/
@[simp] theorem change_id (write : TagWrite) (t : Tag) : (write.change t).id = t.id := by
  rcases write.change_cases t with ⟨tag, now, -, hid, hchange⟩ | ⟨hid, -, -⟩
  · rw [hchange]
    exact (Tag.withUsableLink_id tag).trans hid.symm
  · exact hid

/-- Only overwriting a tag changes a slug name. -/
theorem change_slugName (write : TagWrite) (t : Tag) :
    (write.change t).slugName = t.slugName ∨
      ∃ tag now, write = update tag now ∧ t.id = tag.id ∧
        (write.change t).slugName = tag.slugName := by
  rcases write.change_cases t with ⟨tag, now, hwrite, hid, hchange⟩ | ⟨-, hslug, -⟩
  · exact .inr ⟨tag, now, hwrite, hid, by rw [hchange]; exact Tag.withUsableLink_slugName tag⟩
  · exact .inl hslug

end TagWrite

namespace Tag

/-- **Whether a link is one that leads somewhere or none at all.** -/
def HasUsableLink (tag : Tag) : Prop :=
  (∀ id, tag.mainTagId = some id → id ≠ "" ∧ id ≠ noMainTag) ∧
    (tag.mainTagId = none → tag.mainTagSlugName = none)

/-- A main tag id that leads somewhere is neither empty nor that of no tag. -/
theorem linkTarget?_eq_some {mainTagId : Option String} {id : String} :
    linkTarget? mainTagId = some id ↔ mainTagId = some id ∧ id ≠ "" ∧ id ≠ noMainTag := by
  simp [linkTarget?, Option.filter_eq_some_iff]

/-- Overwriting a tag leaves it with a usable link. -/
theorem hasUsableLink_overwriting (tag : Tag) (now : Timestamp) :
    (tag.overwriting now).HasUsableLink := by
  rw [overwriting, withUsableLink]
  cases htarget : linkTarget? tag.mainTagId with
  | none => exact ⟨fun id hid => absurd hid.symm (Option.some_ne_none id), fun _ => rfl⟩
  | some target =>
      obtain ⟨hlink, husable⟩ := linkTarget?_eq_some.mp htarget
      refine ⟨fun id hid => ?_, fun hnone => ?_⟩
      · obtain rfl : target = id := Option.some.inj (hlink.symm.trans hid)
        exact husable
      · exact absurd (hlink.symm.trans hnone) (Option.some_ne_none target)

/-- A usable link is not dropped. -/
theorem HasUsableLink.withUsableLink_eq {tag : Tag} (h : tag.HasUsableLink) :
    tag.withUsableLink = tag := by
  rw [withUsableLink]
  cases hlink : tag.mainTagId with
  | none =>
      have hname := h.2 hlink
      cases tag
      simp_all [linkTarget?]
  | some id => rw [linkTarget?_eq_some.mpr ⟨rfl, h.1 id hlink⟩]

/-- A row that is changed keeps a usable link. -/
theorem HasUsableLink.change (write : TagWrite) {t : Tag} (ht : t.HasUsableLink) :
    (write.change t).HasUsableLink := by
  cases write with
  | add => exact ht
  | update tag now =>
      rw [TagWrite.change]
      split
      · exact hasUsableLink_overwriting tag now
      · exact ht
  | updateSynonyms names mainTagId mainTagSlugName =>
      rw [TagWrite.change]
      split
      · refine ⟨fun id hid => (linkTarget?_eq_some.mp hid).2, fun hnone => ?_⟩
        simp only at hnone ⊢
        rw [hnone]
        rfl
      · exact ht
  | updateAttribute names flag value =>
      rw [TagWrite.change]
      split
      · cases flag <;> exact ht
      · exact ht
  | remove | updateQuestionCount =>
      rw [TagWrite.change]
      split <;> exact ht

/-- **The state that the tag table is always in**: ids and slug names are distinct, those of
deleted tags included, and links are usable. -/
structure Consistent (rows : List Tag) : Prop where
  ids : (rows.map Tag.id).Nodup
  slugNames : (rows.map Tag.slugName).Nodup
  links : ∀ t ∈ rows, t.HasUsableLink

namespace Consistent

variable {rows : List Tag} {write : TagWrite}

/-- A table without rows is consistent. -/
theorem nil : Consistent [] :=
  ⟨List.nodup_nil, List.nodup_nil, fun _ ht => absurd ht List.not_mem_nil⟩

/-- The row under an id is found by it. -/
theorem find?_eq (h : Consistent rows) {t : Tag} (ht : t ∈ rows) :
    rows.find? (fun u => u.id == t.id) = some t :=
  (Keyed.find?_key_eq_some_iff h.ids).mpr ⟨ht, rfl⟩

/-- The row under an id is the only one. -/
theorem filter_eq (h : Consistent rows) {t : Tag} (ht : t ∈ rows) :
    (rows.filter fun u => u.id = t.id) = [t] := by
  have hkept : (rows.filter fun u => u.id = t.id) = rows.filter fun u => u.id == t.id :=
    List.filter_congr fun u _ => rfl
  rw [hkept, Keyed.filter_key h.ids, h.find?_eq ht]
  rfl

/-- New rows that clash with none keep a table consistent. -/
theorem append (h : Consistent rows) {new : List Tag}
    (hnew : ∀ tag ∈ new, ∀ old ∈ rows, clash? tag old = none)
    (hpair : new.Pairwise fun old tag => clash? tag old = none)
    (hlinks : ∀ tag ∈ new, tag.HasUsableLink) : Consistent (rows ++ new) := by
  simp only [clash?_eq_none_iff] at hnew hpair
  refine ⟨?_, ?_, fun t ht => ?_⟩
  · rw [List.map_append, List.nodup_append]
    refine ⟨h.ids, List.pairwise_map.mpr (hpair.imp And.left), fun a ha b hb => ?_⟩
    obtain ⟨old, hold, rfl⟩ := List.mem_map.mp ha
    obtain ⟨tag, htag, rfl⟩ := List.mem_map.mp hb
    exact (hnew tag htag old hold).1
  · rw [List.map_append, List.nodup_append]
    refine ⟨h.slugNames, List.pairwise_map.mpr (hpair.imp And.right), fun a ha b hb => ?_⟩
    obtain ⟨old, hold, rfl⟩ := List.mem_map.mp ha
    obtain ⟨tag, htag, rfl⟩ := List.mem_map.mp hb
    exact (hnew tag htag old hold).2
  · exact (List.mem_append.mp ht).elim (h.links t) (hlinks t)

/-- Changing the rows keeps a table consistent if no slug name is taken. -/
theorem map_change (h : Consistent rows) (hallowed : write.Allowed rows) :
    Consistent (rows.map write.change) := by
  refine ⟨?_, ?_, fun t ht => ?_⟩
  · rw [List.map_map, show Tag.id ∘ write.change = Tag.id from funext write.change_id]
    exact h.ids
  · rw [List.map_map]
    have hids : rows.Pairwise fun t u => t.id ≠ u.id := List.pairwise_map.mp h.ids
    have hslugs : rows.Pairwise fun t u => t.slugName ≠ u.slugName :=
      List.pairwise_map.mp h.slugNames
    refine List.pairwise_map.mpr ((hids.and hslugs).imp_of_mem fun {t u} ht hu hne => ?_)
    simp only [Function.comp_apply]
    have hsu := write.change_slugName u
    rcases write.change_slugName t with hst | ⟨tag, now, rfl, hidt, hst⟩
    · rcases hsu with hsu | ⟨tag, now, rfl, hidu, hsu⟩
      · rw [hst, hsu]
        exact hne.2
      · rw [hst, hsu]
        exact hallowed.2 t ht fun hid => hne.1 (hid.trans hidu.symm)
    · rcases hsu with hsu | ⟨tag', now', hwrite, hidu, hsu⟩
      · rw [hst, hsu]
        exact (hallowed.2 u hu fun hid => hne.1 (hidt.trans hid.symm)).symm
      · cases hwrite
        exact absurd (hidt.trans hidu.symm) hne.1
  · obtain ⟨u, hu, rfl⟩ := List.mem_map.mp ht
    exact (h.links u hu).change write

/-- **Every write keeps the tag table consistent.** -/
theorem rowsAfter (h : Consistent rows) (hallowed : write.Allowed rows) :
    Consistent (write.rowsAfter rows) := by
  cases write with
  | add ids now new =>
      refine (h.map_change hallowed).append ?_ hallowed.2 fun tag htag => ?_
      · rw [show rows.map (TagWrite.add ids now new).change = rows from List.map_id _]
        exact hallowed.1
      · simp only [TagWrite.added, NewTag.made, List.mem_iff_getElem, List.getElem_zipWith] at htag
        obtain ⟨i, hi, rfl⟩ := htag
        exact ⟨fun id hid => absurd hid.symm (Option.some_ne_none id), fun _ => rfl⟩
  | remove | update | updateQuestionCount | updateSynonyms | updateAttribute =>
      rw [TagWrite.rowsAfter_of_added_eq_nil rfl]
      exact h.map_change hallowed

end Consistent

end Tag

namespace Store

/-- Whether the tag table exists and is consistent. -/
def HasConsistentTags (s : Store) : Prop := ∃ rows, s.rows? Tag = some rows ∧ Tag.Consistent rows

/-- A new store has a consistent tag table. -/
theorem hasConsistentTags_fresh : fresh.HasConsistentTags := ⟨[], by decide, Tag.Consistent.nil⟩

/-- The tag under an id, of any status. -/
def tag? (id : String) (s : Store) : Option Tag :=
  (s.rows? Tag).bind fun rows => rows.find? fun t => t.id == id

/-- The tag under an id has it. -/
theorem id_of_tag? {s : Store} {id : String} {t : Tag} (h : s.tag? id = some t) : t.id = id := by
  obtain ⟨rows, -, hfind⟩ := Option.bind_eq_some_iff.mp h
  simpa using List.find?_some hfind

end Store

namespace TagWrite

variable {s : Store}

/-- **Every write keeps the tag table consistent**, carried out or not. -/
theorem hasConsistentTags_run (h : s.HasConsistentTags) (write : TagWrite) :
    (write.run s).2.HasConsistentTags := by
  obtain ⟨rows, hrows, hconsistent⟩ := h
  rcases write.run_cases hrows with ⟨hallowed, hrun⟩ | ⟨-, e, hrun⟩
  · rw [hrun]
    exact ⟨_, Store.rows?_withRows hrows _, hconsistent.rowsAfter hallowed⟩
  · rw [hrun]
    exact ⟨rows, hrows, hconsistent⟩

/-- The row under an id, behind a write that is carried out. -/
theorem find?_rowsAfter (write : TagWrite) (rows : List Tag) (id : String) :
    (write.rowsAfter rows).find? (fun t => t.id == id) =
      ((rows.find? fun t => t.id == id).map write.change).or
        (write.added.find? fun t => t.id == id) := by
  rw [rowsAfter, List.find?_append, List.find?_map]
  simp only [Function.comp_def, change_id]

/-- **What a write makes of a tag that is stored**: it stays under its id, and is changed exactly
if the write is carried out. -/
theorem tag?_run {id : String} {t : Tag} (h : s.tag? id = some t) (write : TagWrite) :
    (write.run s).2.tag? id =
      some (if (write.run s).1.isOk then write.change t else t) := by
  obtain ⟨rows, hrows, hfind⟩ := Option.bind_eq_some_iff.mp h
  rcases write.run_cases hrows with ⟨-, hrun⟩ | ⟨-, e, hrun⟩
  · rw [hrun, Store.tag?, Store.rows?_withRows hrows, Option.bind_some, find?_rowsAfter, hfind]
    rfl
  · rw [hrun]
    exact h

end TagWrite

namespace Store

variable {s s' : Store} {tags : List Tag}

/-- Storing new tags keeps the tag table consistent. -/
theorem hasConsistentTags_addTags (h : s.HasConsistentTags) {ids : List String} {now : Timestamp}
    {new : List NewTag} (hadd : s.addTags ids now new = (.ok tags, s')) :
    s'.HasConsistentTags := by
  have hrun := TagWrite.hasConsistentTags_run h (.add ids now new)
  rwa [TagWrite.run, hadd] at hrun

/-- **A new tag that is stored** is found under its id. -/
theorem tag?_addTags (h : s.HasConsistentTags) {ids : List String} {now : Timestamp}
    {new : List NewTag} (hadd : s.addTags ids now new = (.ok tags, s')) {tag : Tag}
    (htag : tag ∈ tags) : s'.tag? tag.id = some tag := by
  obtain ⟨rows', hrows', hconsistent⟩ := hasConsistentTags_addTags h hadd
  obtain ⟨rows, hrows, -⟩ := h
  rcases addTags_eq hrows ids now new with ⟨-, hok⟩ | ⟨-, e, herror⟩
  · obtain ⟨htags, hs'⟩ := Prod.mk.inj (hadd.symm.trans hok)
    obtain rfl := Except.ok.inj htags
    rw [hs', rows?_withRows hrows] at hrows'
    obtain rfl := Option.some.inj hrows'
    rw [tag?, hs', rows?_withRows hrows]
    exact hconsistent.find?_eq (List.mem_append_right _ htag)
  · cases (Prod.mk.inj (hadd.symm.trans herror)).1

/-- **A stored tag is overwritten** if it keeps its slug name: it is then what is found under its
id, and under every other id is what was there. -/
theorem updateTag_of_tag? (h : s.HasConsistentTags) (tag : Tag) {stored : Tag}
    (hstored : s.tag? tag.id = some stored) (hname : tag.slugName = stored.slugName)
    (now : Timestamp) :
    ∃ s', s.updateTag tag now = (.ok (tag.overwriting now), s') ∧
      ∀ id, s'.tag? id = if id = tag.id then some (tag.overwriting now) else s.tag? id := by
  obtain ⟨rows, hrows, hconsistent⟩ := h
  rw [tag?, hrows, Option.bind_some] at hstored
  have hmem : stored ∈ rows := List.mem_of_find?_eq_some hstored
  have hid : stored.id = tag.id := by simpa using List.find?_some hstored
  rcases updateTag_eq hrows tag now with ⟨-, hok⟩ | ⟨hallowed, -⟩
  · refine ⟨_, hok, fun id => ?_⟩
    have hkeeps : ∀ t : Tag,
        (if t.id == tag.id then tag.overwriting now else t).id = t.id :=
      TagWrite.change_id (.update tag now)
    rw [tag?, rows?_withRows hrows, Option.bind_some, List.find?_map]
    simp only [Function.comp_def, hkeeps]
    by_cases hother : id = tag.id
    · rw [if_pos hother, hother, hstored, Option.map_some, if_pos (beq_iff_eq.mpr hid)]
    · rw [if_neg hother, tag?, hrows, Option.bind_some]
      cases hfind : rows.find? (fun t => t.id == id) with
      | none => rfl
      | some t =>
          have ht : t.id = id := by simpa using List.find?_some hfind
          rw [Option.map_some, if_neg (by rw [ht, beq_iff_eq]; exact hother)]
  · refine absurd ⟨⟨stored, hmem, hid⟩, fun t ht hne hsame => hne ?_⟩ hallowed
    rw [List.inj_on_of_nodup_map hconsistent.slugNames ht hmem (hsame.trans hname), hid]

/-- The row under an id is the only one under it. -/
theorem filter_eq_of_tag? (h : s.HasConsistentTags) {id : String} {tag : Tag}
    (htag : s.tag? id = some tag) :
    ∃ rows, s.rows? Tag = some rows ∧ (rows.filter fun t => t.id = id) = [tag] := by
  obtain ⟨rows, hrows, hconsistent⟩ := h
  rw [tag?, hrows, Option.bind_some] at htag
  obtain rfl : tag.id = id := by simpa using List.find?_some htag
  exact ⟨rows, hrows, hconsistent.filter_eq (List.mem_of_find?_eq_some htag)⟩

end Store

end TagTimeline
