import TagTimeline.Proofs.Store.RenamedReads
import TagTimeline.Proofs.Tag.Batch

/-!
# Calls under Other Names

Calls that ask for the same, with every id under its other name and every time at its other value,
get the same answers, with ids and times changed in the same way, and leave stores that differ by
nothing else. So whatever clients do can be told without what ids are called and what clocks read.

## Main results

* `Renaming.alike_run` — every call.
* `Renaming.KnowsStore.run` — no call brings an id or a time that is unknown.
* `Renaming.answersAlike_store` — every run.
-/

namespace TagTimeline

open Time

namespace Renaming

variable (r : Renaming)

/-- A new activity on objects by their other names. -/
def newActivity (new : NewActivity) : NewActivity :=
  { new with
    objectId := r.id new.objectId
    originalObjectId := r.id new.originalObjectId
    revisionId := new.revisionId.map r.id }

/-- A new revision of an object by its other name. -/
def newRevision (new : NewRevision) : NewRevision := { new with objectId := r.id new.objectId }

/-- **A call by other names and at another time.** -/
def call {α : Type} : Call α → Call α
  | .read lookUp => .read (r.lookUp lookUp)
  | .addTags ids now new => .addTags (ids.map r.id) (r.time now) new
  | .removeTag id now => .removeTag (r.id id) (r.time now)
  | .updateTag tag now => .updateTag (r.tag tag) (r.time now)
  | .updateQuestionCount id count => .updateQuestionCount (r.id id) count
  | .updateSynonyms names mainTagId mainTagSlugName =>
      .updateSynonyms names (mainTagId.map r.id) mainTagSlugName
  | .updateAttribute names flag value => .updateAttribute names flag value
  | .catalogAddTags ids now new => .catalogAddTags (ids.map r.id) (r.time now) new
  | .catalogRemoveTag id now => .catalogRemoveTag (r.id id) (r.time now)
  | .catalogUpdateTag tag now => .catalogUpdateTag (r.tag tag) (r.time now)
  | .catalogUpdateQuestionCount id count => .catalogUpdateQuestionCount (r.id id) count
  | .catalogUpdateSynonyms names mainTag => .catalogUpdateSynonyms names (mainTag.map r.tag)
  | .catalogUpdateAttribute names flagName value => .catalogUpdateAttribute names flagName value
  | .createActivity id now new => .createActivity (r.id id) (r.time now) (r.newActivity new)
  | .cancelActivity id now => .cancelActivity (r.id id) (r.time now)
  | .createRevision id now new => .createRevision (r.id id) (r.time now) (r.newRevision new)
  | .getOrCreateSettings requiredTag now => .getOrCreateSettings requiredTag (r.time now)
  | .setRequiredTag requiredTag made changed =>
      .setRequiredTag requiredTag (r.time made) (r.time changed)

/-- **That two answers of a call are the same** up to names and times. -/
def SameResult {α : Type} : Call α → α → α → Prop
  | .read lookUp => r.SameAnswer lookUp
  | .addTags _ _ _ | .catalogAddTags _ _ _ => fun tags tags' => tags' = tags.map r.tag
  | .updateTag _ _ | .catalogUpdateTag _ _ => fun tag tag' => tag' = r.tag tag
  | .createActivity _ _ _ => fun activity activity' => activity' = r.activity activity
  | .createRevision _ _ _ => fun revision revision' => revision' = r.revision revision
  | .getOrCreateSettings _ _ | .setRequiredTag _ _ _ => fun row row' => row' = r.settings row
  | .removeTag _ _ | .updateQuestionCount _ _ | .updateSynonyms _ _ _ | .updateAttribute _ _ _
  | .catalogRemoveTag _ _ | .catalogUpdateQuestionCount _ _ | .catalogUpdateSynonyms _ _
  | .catalogUpdateAttribute _ _ _ | .cancelActivity _ _ => fun done done' => done' = done

end Renaming

namespace Renaming

variable {r : Renaming} {s : Store} {α : Type}

/-! ### Writes -/

/-- **That two outcomes are alike**, and the stores behind them the same up to names and times. -/
def AlikeOutcome (r : Renaming) (same : α → α → Prop) (outcome outcome' : Outcome α) : Prop :=
  r.Alike same outcome.1 outcome'.1 ∧ outcome'.2 = r.store outcome.2

/-- Outcomes one of which is the other, renamed, are alike. -/
theorem alikeOutcome_of_eq {outcome outcome' : Outcome α} {rename : α → α}
    (h : outcome' = Prod.map (Except.map rename) r.store outcome) :
    r.AlikeOutcome (fun a a' => a' = rename a) outcome outcome' := by
  subst h
  exact ⟨alike_of_eq_map rfl, rfl⟩

/-- **Changing rows** under other names. -/
theorem update_store {Row : Type} [Stored Row] [Renamable Row] {selected selected' : Row → Bool}
    {change change' : Row → Row}
    (hselected : ∀ row, selected' (Renamable.row r row) = selected row)
    (hchange : ∀ row, change' (Renamable.row r row) = Renamable.row r (change row))
    (context : String) :
    r.AlikeOutcome (fun done done' => done' = done)
      (s.write context (Statement.update selected change))
      ((r.store s).write context (Statement.update selected' change')) :=
  alikeOutcome_of_eq
    (write_store (fun rows _ => Statement.update_map hselected hchange rows) context)

/-- A link leads somewhere under its other name exactly if it does. -/
theorem linkTarget?_map (mainTagId : Option String) :
    Tag.linkTarget? (mainTagId.map r.id) = (Tag.linkTarget? mainTagId).map r.id := by
  have husable : (fun id => decide (id ≠ "" ∧ id ≠ Tag.noMainTag)) ∘ r.id =
      fun id => decide (id ≠ "" ∧ id ≠ Tag.noMainTag) := by
    funext id
    exact decide_eq_decide.mpr (and_congr (not_congr r.id_eq_empty) (not_congr r.id_eq_zero))
  rw [Tag.linkTarget?, Option.filter_map, husable]
  rfl

/-- A link that leads nowhere is dropped under other names. -/
theorem withUsableLink_map (t : Tag) : (r.tag t).withUsableLink = r.tag t.withUsableLink := by
  have htarget : Tag.linkTarget? (r.tag t).mainTagId = (Tag.linkTarget? t.mainTagId).map r.id :=
    linkTarget?_map t.mainTagId
  rw [Tag.withUsableLink, htarget, Tag.withUsableLink]
  cases Tag.linkTarget? t.mainTagId <;> rfl

/-- Tags clash under their other names exactly if they do. -/
theorem clash?_tag (new old : Tag) : Tag.clash? (r.tag new) (r.tag old) = Tag.clash? new old := by
  by_cases hid : old.id = new.id <;> by_cases hslug : old.slugName = new.slugName <;>
    simp [Tag.clash?, tag, hid, hslug]

/-- **New tags are made** under their other names. -/
theorem made_map (ids : List String) (now : Timestamp) (new : List NewTag) :
    NewTag.made (ids.map r.id) (r.time now) new = (NewTag.made ids now new).map r.tag := by
  have hfirst : NewTag.firstRevision = r.id NewTag.firstRevision := r.id_zero.symm
  have hmade : ∀ (new : NewTag) (id : String),
      new.toTag (r.id id) (r.time now) = r.tag (new.toTag id now) := fun new id => by
    simp only [NewTag.toTag, tag, ← hfirst]
    rfl
  rw [NewTag.made, NewTag.made, List.map_zipWith, List.zipWith_map_right]
  simp only [hmade]

/-- **New tags are stored** under their other names. -/
theorem alike_addTags (ids : List String) (now : Timestamp) (new : List NewTag) :
    r.AlikeOutcome (fun tags tags' => tags' = tags.map r.tag) (s.addTags ids now new)
      ((r.store s).addTags (ids.map r.id) (r.time now) new) := by
  cases new with
  | nil => exact ⟨rfl, rfl⟩
  | cons tag more =>
      have hmade := made_map (r := r) ids now (tag :: more)
      have hwrite := write_store (fun rows (_ : s.rows? Tag = some rows) =>
        Statement.insertAll_map (r.clash?_tag) (NewTag.made ids now (tag :: more)) rows)
        "insert tag list"
      rw [NewTag.made, NewTag.made] at hmade
      rw [NewTag.made] at hwrite
      simp only [Store.addTags, List.isEmpty_cons, Bool.false_eq_true, if_false, hmade, hwrite]
      generalize s.write "insert tag list" (Statement.insertAll Tag.clash?
        (List.zipWith (fun tag id => tag.toTag id now) (tag :: more) ids)) = outcome
      obtain ⟨_ | _, s'⟩ := outcome
      · exact ⟨.inl rfl, rfl⟩
      · exact ⟨rfl, rfl⟩

/-- **A row is overwritten** under its other name. -/
theorem overwriteTag_map (t : Tag) (rows : List Tag) :
    Store.overwriteTag (r.tag t) (rows.map r.tag) =
      (Store.overwriteTag t rows).map (Prod.map (Option.map r.tag) (List.map r.tag)) := by
  have hexists : (rows.map r.tag).any (fun u => u.id == (r.tag t).id) =
      rows.any fun u => u.id == t.id := by
    rw [List.any_map]
    exact congrArg rows.any (funext fun u => beq_id u.id t.id)
  have htaken : (rows.map r.tag).any
      (fun u => u.id != (r.tag t).id && u.slugName == (r.tag t).slugName) =
      rows.any fun u => u.id != t.id && u.slugName == t.slugName := by
    rw [List.any_map]
    exact congrArg rows.any (funext fun u =>
      congrArg (fun same => !same && u.slugName == t.slugName) (beq_id u.id t.id))
  have hrows : (rows.map r.tag).map (fun u => if u.id == (r.tag t).id then r.tag t else u) =
      (rows.map fun u => if u.id == t.id then t else u).map r.tag := by
    rw [List.map_map, List.map_map]
    refine List.map_congr_left fun u _ => ?_
    have hid : ((r.tag u).id == (r.tag t).id) = (u.id == t.id) := beq_id u.id t.id
    rw [Function.comp_apply, Function.comp_apply, hid]
    split <;> rfl
  simp only [Store.overwriteTag, hexists, htaken, hrows]
  split
  · split <;> rfl
  · rfl

/-- **A tag is overwritten**, or missed, under its other name. -/
theorem alike_updateTag (t : Tag) (now : Timestamp) :
    r.AlikeOutcome (fun tag tag' => tag' = r.tag tag) (s.updateTag t now)
      ((r.store s).updateTag (r.tag t) (r.time now)) := by
  have hnew : { (r.tag t).withUsableLink with updatedAt := r.time now } =
      r.tag { t.withUsableLink with updatedAt := now } := by
    rw [withUsableLink_map]
    rfl
  rw [Store.updateTag, Store.updateTag, hnew,
    write_store fun rows (_ : s.rows? Tag = some rows) => overwriteTag_map _ rows]
  rcases s.write "update tag" (Store.overwriteTag { t.withUsableLink with updatedAt := now }) with
    ⟨e | _ | stored, s'⟩
  · exact ⟨.inl rfl, rfl⟩
  · exact ⟨.inr (.inl ⟨t.id, rfl, rfl⟩), rfl⟩
  · exact ⟨rfl, rfl⟩

/-- **Tags are linked** under other names. -/
theorem alike_updateSynonyms (names : List String) (mainTagId mainTagSlugName : Option String) :
    r.AlikeOutcome (fun done done' => done' = done)
      (s.updateSynonyms names mainTagId mainTagSlugName)
      ((r.store s).updateSynonyms names (mainTagId.map r.id) mainTagSlugName) := by
  rw [Store.updateSynonyms, Store.updateSynonyms, linkTarget?_map]
  refine update_store (fun t => ?_) (fun t => ?_) _
  · rfl
  · cases Tag.linkTarget? mainTagId <;> rfl

/-- **A flag of tags is set** under their other names. -/
theorem alike_updateAttribute (names : List String) (flag : TagAttribute) (value : Bool) :
    r.AlikeOutcome (fun done done' => done' = done) (s.updateAttribute names flag value)
      ((r.store s).updateAttribute names flag value) := by
  refine update_store (fun t => ?_) (fun t => ?_) _
  · rfl
  · cases flag <;> rfl

/-- **The row of settings is made** at another time. -/
theorem getOrCreateSettings_store (requiredTag : Bool) (now : Timestamp) :
    (r.store s).getOrCreateSettings requiredTag (r.time now) =
      Prod.map (Except.map r.settings) r.store (s.getOrCreateSettings requiredTag now) := by
  rw [Store.getOrCreateSettings, findSettings_store, Store.getOrCreateSettings]
  rcases s.findSettings with e | _ | row
  · rfl
  · have hclash : ∀ old, SiteSettings.clash? (r.settings (.first requiredTag now))
        (r.settings old) = SiteSettings.clash? (.first requiredTag now) old := fun _ => rfl
    exact write_store (fun rows _ => Statement.insert_map hclash rows) _
  · rfl

/-- **The setting is set** at another time. -/
theorem alike_setRequiredTag (requiredTag : Bool) (made changed : Timestamp) :
    r.AlikeOutcome (fun row row' => row' = r.settings row)
      (s.setRequiredTag requiredTag made changed)
      ((r.store s).setRequiredTag requiredTag (r.time made) (r.time changed)) := by
  rw [Store.setRequiredTag, Store.setRequiredTag, getOrCreateSettings_store]
  rcases s.getOrCreateSettings requiredTag made with ⟨e | row, s'⟩
  · exact ⟨.inl rfl, rfl⟩
  · refine alikeOutcome_of_eq (write_store (fun rows _ => ?_) _)
    refine congrArg (fun rows => Except.ok (_, rows)) ?_
    rw [List.map_map, List.map_map]
    refine List.map_congr_left fun old _ => ?_
    exact (apply_ite r.settings ((old.id == row.id) = true)
      { row with requiredTag := requiredTag, updatedAt := some changed } old).symm

/-! ### Calls -/

/-- **A call does the same by other names and at another time.** -/
theorem alike_run (hs : r.KnowsStore s) (call : Call α) :
    r.AlikeOutcome (r.SameResult call) (call.run s) ((r.call call).run (r.store s)) := by
  cases call with
  | read lookUp =>
      have hrenamed : (r.call (.read lookUp)).run (r.store s) =
          ((r.lookUp lookUp).answer (r.store s), r.store s) := Call.run_read _ _
      rw [Call.run_read, hrenamed]
      exact ⟨alike_answer hs lookUp, rfl⟩
  | addTags ids now new | catalogAddTags ids now new => exact alike_addTags ids now new
  | removeTag id now | catalogRemoveTag id now =>
      refine update_store (fun t => ?_) (fun t => ?_) _
      · exact beq_id t.id id
      · rfl
  | updateTag t now | catalogUpdateTag t now => exact alike_updateTag t now
  | updateQuestionCount id count | catalogUpdateQuestionCount id count =>
      refine update_store (fun t => ?_) (fun t => ?_) _
      · exact beq_id t.id id
      · rfl
  | updateSynonyms names mainTagId mainTagSlugName =>
      exact alike_updateSynonyms names mainTagId mainTagSlugName
  | catalogUpdateSynonyms names mainTag =>
      cases mainTag with
      | none => exact alike_updateSynonyms names none none
      | some t => exact alike_updateSynonyms names (some t.id) (some t.slugName)
  | updateAttribute names flag value => exact alike_updateAttribute names flag value
  | catalogUpdateAttribute names flagName value =>
      simp only [Renaming.call, Call.run, Catalog.updateAttribute]
      cases TagAttribute.ofName? flagName with
      | none => exact ⟨rfl, rfl⟩
      | some flag => exact alike_updateAttribute names flag value
  | createActivity id now new =>
      have hclash : ∀ old, Activity.clash? (r.activity (new.toActivity id now)) (r.activity old) =
          Activity.clash? (new.toActivity id now) old := fun old => by
        by_cases hid : old.id = id <;>
          simp [Activity.clash?, activity, NewActivity.toActivity, hid]
      exact alikeOutcome_of_eq
        (write_store (fun rows _ => Statement.insert_map hclash rows) _)
  | cancelActivity id now =>
      refine update_store (fun a => ?_) (fun a => ?_) _
      · exact beq_id a.id id
      · rfl
  | createRevision id now new =>
      have hclash : ∀ old, Revision.clash? (r.revision (new.toRevision id now)) (r.revision old) =
          Revision.clash? (new.toRevision id now) old := fun old => by
        by_cases hid : old.id = id <;>
          simp [Revision.clash?, revision, NewRevision.toRevision, hid]
      exact alikeOutcome_of_eq
        (write_store (fun rows _ => Statement.insert_map hclash rows) _)
  | getOrCreateSettings requiredTag now =>
      exact alikeOutcome_of_eq (getOrCreateSettings_store requiredTag now)
  | setRequiredTag requiredTag made changed => exact alike_setRequiredTag requiredTag made changed

/-! ### Runs -/

/-- That a renaming knows a write of tags: the ids that are generated for it, the time that is read
for it, and the time that it brings for a tag that is stored. -/
def KnowsWrite (r : Renaming) : TagWrite → Prop
  | .add ids now _ => ∀ id ∈ ids, r.Knows id now
  | .update t _ => t.createdAt ∈ r.readings
  | _ => True

/-- **That a renaming knows a call**: the ids that are generated and the times that are read for
what it stores. -/
def KnowsCall (r : Renaming) (call : Call α) : Prop :=
  match call with
  | .createActivity id now _ | .createRevision id now _ => r.Knows id now
  | call => ∀ write, call.onTags? = some write → r.KnowsWrite write

/-- What is known of a call that writes tags. -/
theorem KnowsCall.knowsWrite {call : Call α} {write : TagWrite} (h : r.KnowsCall call)
    (hwrite : call.onTags? = some write) : r.KnowsWrite write := by
  cases call with
  | createActivity | createRevision => cases hwrite
  | _ => exact h write hwrite

/-- **A write of tags brings nothing unknown.** -/
theorem KnowsTags.rowsAfter {rows : List Tag} {write : TagWrite} (h : r.KnowsTags rows)
    (hwrite : r.KnowsWrite write) : r.KnowsTags (write.rowsAfter rows) := by
  intro t ht
  rcases List.mem_append.mp ht with ht | ht
  · obtain ⟨u, hu, rfl⟩ := List.mem_map.mp ht
    refine ⟨by rw [write.change_id]; exact (h u hu).1, ?_⟩
    rcases write.change_cases u with ⟨tag, now, rfl, -, hchange⟩ | ⟨-, -, hsame⟩
    · have hbrought : (tag.overwriting now).createdAt = tag.createdAt :=
        Tag.withUsableLink_createdAt tag
      rw [hchange, hbrought]
      exact hwrite
    · rw [hsame]
      exact (h u hu).2
  · cases write with
    | add ids now new =>
        rw [TagWrite.added, NewTag.made_eq_map] at ht
        obtain ⟨⟨tag, id⟩, hpair, rfl⟩ := List.mem_map.mp ht
        exact hwrite id (List.of_mem_zip hpair).2
    | _ => exact absurd ht List.not_mem_nil

namespace KnowsStore

/-- A new store has nothing unknown. -/
theorem fresh (r : Renaming) : r.KnowsStore .fresh where
  tags := .of_empty rfl
  activities := .of_empty rfl
  revisions := .of_empty rfl

variable {call : Call α}

/-- No call brings a tag that is unknown. -/
theorem tags_run (h : r.KnowsStore s) (hcall : r.KnowsCall call) :
    (call.run s).2.AllRows fun t : Tag => r.Knows t.id t.createdAt := by
  intro rows' hrows'
  cases hwrite : call.onTags? with
  | none => exact h.tags rows' (by rw [← hrows', Call.rows?_tag_run hwrite])
  | some write =>
      have hrun : (call.run s).2 = (write.run s).2 :=
        congrArg Prod.snd (Call.unanswered_run hwrite s)
      rw [hrun] at hrows'
      cases hrows : s.rows? Tag with
      | none =>
          rw [write.snd_run_of_missing hrows, hrows] at hrows'
          cases hrows'
      | some rows =>
          rcases write.run_cases hrows with ⟨-, hwritten⟩ | ⟨-, e, hrefused⟩
          · rw [hwritten, Store.rows?_withRows hrows] at hrows'
            obtain rfl := Option.some.inj hrows'
            exact KnowsTags.rowsAfter (h.tags rows hrows) (hcall.knowsWrite hwrite)
          · rw [hrefused] at hrows'
            exact h.tags rows' hrows'

/-- No call brings an activity that is unknown. -/
theorem activities_run (h : r.KnowsStore s) (hcall : r.KnowsCall call) :
    (call.run s).2.AllRows fun a : Activity => r.Knows a.id a.createdAt := by
  by_cases hlog : call.written? = some .activity
  · cases call with
    | createActivity id now new => exact h.activities.insert (new.toActivity id now) hcall _ _
    | cancelActivity id now =>
        exact h.activities.update (fun a => { a with cancelled := true, cancelledAt := some now })
          (fun _ ha => ha) _ _
    | _ => cases hlog
  · intro rows' hrows'
    exact h.activities rows' ((Call.rows?_run_other hlog s).symm.trans hrows')

/-- No call brings a revision that is unknown. -/
theorem revisions_run (h : r.KnowsStore s) (hcall : r.KnowsCall call) :
    (call.run s).2.AllRows fun v : Revision => r.Knows v.id v.createdAt := by
  by_cases hhistory : call.written? = some .revision
  · cases call with
    | createRevision id now new => exact h.revisions.insert (new.toRevision id now) hcall _ _
    | _ => cases hhistory
  · intro rows' hrows'
    exact h.revisions rows' ((Call.rows?_run_other hhistory s).symm.trans hrows')

/-- **A call brings nothing unknown.** -/
theorem run (h : r.KnowsStore s) (hcall : r.KnowsCall call) : r.KnowsStore (call.run s).2 :=
  ⟨h.tags_run hcall, h.activities_run hcall, h.revisions_run hcall⟩

end KnowsStore

/-- **That two runs answer alike**: the same calls from one store, and by other names and at other
times from another, have answers that are the same up to names and times, call by call. -/
def AnswersAlike (r : Renaming) : List ((α : Type) × Call α) → Store → Store → Prop
  | [], _, _ => True
  | call :: more, s, s' =>
      r.Alike (r.SameResult call.2) (call.2.run s).1 ((r.call call.2).run s').1 ∧
        r.AnswersAlike more (call.2.run s).2 ((r.call call.2).run s').2

/-- **Runs answer alike under other names and at other times.** -/
theorem answersAlike_store (hs : r.KnowsStore s) {calls : List ((α : Type) × Call α)}
    (h : ∀ call ∈ calls, r.KnowsCall call.2) : r.AnswersAlike calls s (r.store s) := by
  induction calls generalizing s with
  | nil => trivial
  | cons call more ih =>
      obtain ⟨hanswer, hstore⟩ := alike_run hs call.2
      refine ⟨hanswer, ?_⟩
      rw [hstore]
      exact ih (hs.run (h call List.mem_cons_self)) fun other hother =>
        h other (List.mem_cons_of_mem call hother)

end Renaming

end TagTimeline
