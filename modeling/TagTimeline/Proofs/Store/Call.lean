import TagTimeline.Proofs.Store.Reading

/-!
# Calls

Every operation that clients have, as data: reads and writes of tags, activities, revisions and the
setting, through the catalog and the timelines or straight from the store. A call answers something
of a type or fails, and leaves a store behind.

A read gives back the rows of every table that it asks. A write that has several statements writes
nothing before the last of them that can fail, and a statement that fails is not carried out; so a
call that fails leaves no half of a change, whichever tables exist and whatever it fails of.

## Main results

* `Call.rows?_run_other` — a call leaves the rows of tables that it does not write.
* `Call.run_eq_self` — reads, and calls that fail, leave the store as it was.
* `Store.hasConsistentTags_afterCalls` — the tag table stays consistent in every run.
-/

namespace TagTimeline

open Time

/-- **A call of any operation**, with its arguments, by what it answers. -/
inductive Call : Type → Type 1 where
  | read {α : Type} (lookUp : Read α) : Call α
  | addTags (ids : List String) (now : Timestamp) (new : List NewTag) : Call (List Tag)
  | removeTag (id : String) (now : Timestamp) : Call Unit
  | updateTag (tag : Tag) (now : Timestamp) : Call Tag
  | updateQuestionCount (id : String) (count : Int32) : Call Unit
  | updateSynonyms (names : List String) (mainTagId mainTagSlugName : Option String) : Call Unit
  | updateAttribute (names : List String) (flag : TagAttribute) (value : Bool) : Call Unit
  | catalogAddTags (ids : List String) (now : Timestamp) (new : List NewTag) : Call (List Tag)
  | catalogRemoveTag (id : String) (now : Timestamp) : Call Unit
  | catalogUpdateTag (tag : Tag) (now : Timestamp) : Call Tag
  | catalogUpdateQuestionCount (id : String) (count : Int32) : Call Unit
  | catalogUpdateSynonyms (names : List String) (mainTag : Option Tag) : Call Unit
  | catalogUpdateAttribute (names : List String) (flagName : String) (value : Bool) : Call Unit
  | createActivity (id : String) (now : Timestamp) (new : NewActivity) : Call Activity
  | cancelActivity (id : String) (now : Timestamp) : Call Unit
  | createRevision (id : String) (now : Timestamp) (new : NewRevision) : Call Revision
  | getOrCreateSettings (requiredTag : Bool) (now : Timestamp) : Call SiteSettings
  /-- Sets the setting, with the time of a row that is made and that of the change. -/
  | setRequiredTag (requiredTag : Bool) (made changed : Timestamp) : Call SiteSettings

namespace Call

/-- What a call answers, and the store behind it. -/
def run {α : Type} : Call α → Store → Outcome α
  | read lookUp, s => lookUp.run s
  | addTags ids now new, s => s.addTags ids now new
  | removeTag id now, s => s.removeTag id now
  | updateTag tag now, s => s.updateTag tag now
  | updateQuestionCount id count, s => s.updateQuestionCount id count
  | updateSynonyms names mainTagId mainTagSlugName, s =>
      s.updateSynonyms names mainTagId mainTagSlugName
  | updateAttribute names flag value, s => s.updateAttribute names flag value
  | catalogAddTags ids now new, s => Catalog.addTags ids now new s
  | catalogRemoveTag id now, s => Catalog.removeTag id now s
  | catalogUpdateTag tag now, s => Catalog.updateTag tag now s
  | catalogUpdateQuestionCount id count, s => Catalog.updateQuestionCount id count s
  | catalogUpdateSynonyms names mainTag, s => Catalog.updateSynonyms names mainTag s
  | catalogUpdateAttribute names flagName value, s =>
      Catalog.updateAttribute names flagName value s
  | createActivity id now new, s => s.createActivity id now new
  | cancelActivity id now, s => s.cancelActivity id now
  | createRevision id now new, s => s.createRevision id now new
  | getOrCreateSettings requiredTag now, s => s.getOrCreateSettings requiredTag now
  | setRequiredTag requiredTag made changed, s => s.setRequiredTag requiredTag made changed

/-- Whether a call is a read. -/
def isRead {α : Type} : Call α → Bool
  | read _ => true
  | _ => false

/-- **The write of stored tags that a call is**, if it is one. -/
def onTags? {α : Type} : Call α → Option TagWrite
  | addTags ids now new | catalogAddTags ids now new => some (.add ids now new)
  | removeTag id now | catalogRemoveTag id now => some (.remove id now)
  | updateTag tag now | catalogUpdateTag tag now => some (.update tag now)
  | updateQuestionCount id count | catalogUpdateQuestionCount id count =>
      some (.updateQuestionCount id count)
  | updateSynonyms names mainTagId mainTagSlugName =>
      some (.updateSynonyms names mainTagId mainTagSlugName)
  | catalogUpdateSynonyms names mainTag =>
      some (.updateSynonyms names (mainTag.map Tag.id) (mainTag.map Tag.slugName))
  | updateAttribute names flag value => some (.updateAttribute names flag value)
  | catalogUpdateAttribute names flagName value =>
      (TagAttribute.ofName? flagName).map fun flag => .updateAttribute names flag value
  | _ => none

/-- **The table whose rows a call may write**, if it is no read. -/
def written? {α : Type} : Call α → Option TableName
  | read _ => none
  | addTags _ _ _ | removeTag _ _ | updateTag _ _ | updateQuestionCount _ _ | updateSynonyms _ _ _
  | updateAttribute _ _ _ | catalogAddTags _ _ _ | catalogRemoveTag _ _ | catalogUpdateTag _ _
  | catalogUpdateQuestionCount _ _ | catalogUpdateSynonyms _ _ | catalogUpdateAttribute _ _ _ =>
      some .tag
  | createActivity _ _ _ | cancelActivity _ _ => some .activity
  | createRevision _ _ _ => some .revision
  | getOrCreateSettings _ _ | setRequiredTag _ _ _ => some .siteSettings

end Call

namespace Store

variable {s : Store} {e : ServiceError}

/-- What answers nothing is the same without its answer. -/
theorem unanswered_unit (outcome : Outcome Unit) : unanswered outcome = outcome := by
  obtain ⟨answer, s'⟩ := outcome
  cases answer <;> rfl

/-- What fails also fails without its answer. -/
theorem unanswered_of_error {α : Type} {outcome : Outcome α} (h : outcome.1 = .error e) :
    (unanswered outcome).1 = .error e := by
  rw [unanswered, h]
  rfl

/-- **Making the row of settings** fails only with nothing made. -/
theorem getOrCreateSettings_of_error {requiredTag : Bool} {now : Timestamp}
    (h : (s.getOrCreateSettings requiredTag now).1 = .error e) :
    (s.getOrCreateSettings requiredTag now).2 = s := by
  rw [getOrCreateSettings] at h ⊢
  cases hfind : s.findSettings with
  | error e' => rfl
  | ok row? =>
      cases row? with
      | some row => rfl
      | none =>
          rw [hfind] at h
          exact write_of_error h

/-- Where the row of settings could be made, there is a table for it. -/
theorem rows?_of_getOrCreateSettings {requiredTag : Bool} {now : Timestamp} {row : SiteSettings}
    {s' : Store} (h : s.getOrCreateSettings requiredTag now = (.ok row, s')) :
    ∃ rows, s'.rows? SiteSettings = some rows := by
  rw [getOrCreateSettings] at h
  cases hfind : s.findSettings with
  | error e' =>
      rw [hfind] at h
      cases (Prod.mk.inj h).1
  | ok row? =>
      obtain ⟨rows, hrows, -⟩ := select_ok_iff.mp hfind
      rw [hfind] at h
      cases row? with
      | some found =>
          obtain ⟨-, rfl⟩ := Prod.mk.inj h
          exact ⟨rows, hrows⟩
      | none =>
          obtain rfl : (s.insertSettings requiredTag now).2 = s' := congrArg Prod.snd h
          exact exists_rows?_write hrows _ _

/-- **Setting the setting** fails only with nothing made and nothing set: once there is the row, it
can be overwritten. -/
theorem setRequiredTag_of_error {requiredTag : Bool} {made changed : Timestamp}
    (h : (s.setRequiredTag requiredTag made changed).1 = .error e) :
    (s.setRequiredTag requiredTag made changed).2 = s := by
  rw [setRequiredTag] at h ⊢
  cases hcreate : s.getOrCreateSettings requiredTag made with
  | mk answer s' =>
      cases answer with
      | error e' =>
          have hsame := getOrCreateSettings_of_error (congrArg Prod.fst hcreate)
          rw [hcreate] at hsame
          exact hsame
      | ok row =>
          obtain ⟨rows, hrows⟩ := rows?_of_getOrCreateSettings hcreate
          rw [hcreate] at h
          simp only at h
          rw [write_eq hrows] at h
          cases h

end Store

namespace TagWrite

variable {s : Store} {e : ServiceError}

/-- **A write of tags that fails** leaves the store as it was. -/
theorem snd_run_of_error (write : TagWrite) (h : (write.run s).1 = .error e) :
    (write.run s).2 = s := by
  cases hrows : s.rows? Tag with
  | none => exact write.snd_run_of_missing hrows
  | some rows =>
      rcases write.run_cases hrows with ⟨-, hrun⟩ | ⟨-, e', hrun⟩
      · rw [hrun] at h
        cases h
      · rw [hrun]

end TagWrite

namespace Call

variable {α : Type} {call : Call α} {s : Store} {e : ServiceError}

/-- **A read answers**, and leaves the store as it was. -/
theorem run_read (lookUp : Read α) (s : Store) : (read lookUp).run s = (lookUp.answer s, s) :=
  lookUp.run_eq s

/-- **A call that writes tags** is carried out as the write that it is, and fails alike. -/
theorem unanswered_run {write : TagWrite} (h : call.onTags? = some write) (s : Store) :
    Store.unanswered (call.run s) = write.run s := by
  cases call with
  | catalogUpdateAttribute names flagName value =>
      obtain ⟨flag, hflag, rfl⟩ := Option.map_eq_some_iff.mp h
      rw [Store.unanswered_unit, run, Catalog.updateAttribute, hflag]
      rfl
  | addTags | updateTag | catalogAddTags | catalogUpdateTag =>
      cases h
      rfl
  | removeTag | updateQuestionCount | updateSynonyms | updateAttribute | catalogRemoveTag
  | catalogUpdateQuestionCount | catalogUpdateSynonyms =>
      cases h
      exact Store.unanswered_unit _
  | read | createActivity | cancelActivity | createRevision | getOrCreateSettings
  | setRequiredTag => cases h

/-- A flag that does not exist is set by changing nothing. -/
theorem run_catalogUpdateAttribute {names : List String} {flagName : String} {value : Bool}
    (h : (catalogUpdateAttribute names flagName value).onTags? = none) (s : Store) :
    (catalogUpdateAttribute names flagName value).run s = (.ok (), s) := by
  rw [run, Catalog.updateAttribute, Option.map_eq_none_iff.mp h]

/-- **A call leaves the rows of tables that it does not write**, carried out or not. -/
theorem rows?_run_other {Other : Type} [Stored Other] [StoredAlone Other]
    (h : call.written? ≠ some (Stored.tableName Other)) (s : Store) :
    (call.run s).2.rows? Other = s.rows? Other := by
  have hapart : ∀ t, call.written? = some t → t.IsApart Other := fun t ht =>
    StoredAlone.isApart t fun heq => h (heq ▸ ht)
  cases hwrite : call.onTags? with
  | some write =>
      have hrun : (call.run s).2 = (write.run s).2 := congrArg Prod.snd (unanswered_run hwrite s)
      have htag : call.written? = some .tag := by cases call <;> first | rfl | cases hwrite
      have : StoredApart Tag Other := hapart .tag htag
      rw [hrun, write.rows?_run_other]
  | none =>
      cases call with
      | read lookUp => rw [run_read]
      | catalogUpdateAttribute => rw [run_catalogUpdateAttribute hwrite]
      | createActivity | cancelActivity =>
          have : StoredApart Activity Other := hapart .activity rfl
          exact Store.rows?_write_other s _ _
      | createRevision =>
          have : StoredApart Revision Other := hapart .revision rfl
          exact Store.rows?_write_other s _ _
      | getOrCreateSettings requiredTag now =>
          have : StoredApart SiteSettings Other := hapart .siteSettings rfl
          exact s.rows?_getOrCreateSettings_other requiredTag now
      | setRequiredTag requiredTag made changed =>
          have : StoredApart SiteSettings Other := hapart .siteSettings rfl
          exact s.rows?_setRequiredTag_other requiredTag made changed
      | addTags | removeTag | updateTag | updateQuestionCount | updateSynonyms | updateAttribute
      | catalogAddTags | catalogRemoveTag | catalogUpdateTag | catalogUpdateQuestionCount
      | catalogUpdateSynonyms => cases hwrite

/-- **A call that writes no tags** leaves their rows. -/
theorem rows?_tag_run (h : call.onTags? = none) (s : Store) :
    (call.run s).2.rows? Tag = s.rows? Tag := by
  cases call with
  | catalogUpdateAttribute => rw [run_catalogUpdateAttribute h]
  | read | createActivity | cancelActivity | createRevision | getOrCreateSettings
  | setRequiredTag => exact rows?_run_other (by simp [written?, Stored.tableName]) s
  | addTags | removeTag | updateTag | updateQuestionCount | updateSynonyms | updateAttribute
  | catalogAddTags | catalogRemoveTag | catalogUpdateTag | catalogUpdateQuestionCount
  | catalogUpdateSynonyms => cases h

/-- What a call makes of a stored tag: nothing, or what its write of tags makes of it. -/
theorem tag?_run {id : String} {t : Tag} (h : s.tag? id = some t) (call : Call α) :
    (call.run s).2.tag? id = some t ∨
      ∃ write, call.onTags? = some write ∧ (call.run s).1.isOk = true ∧
        (call.run s).2.tag? id = some (write.change t) := by
  cases hwrite : call.onTags? with
  | none => exact .inl (by rw [Store.tag?, rows?_tag_run hwrite, ← Store.tag?, h])
  | some write =>
      have hrun := unanswered_run hwrite s
      have hanswer : (write.run s).1.isOk = (call.run s).1.isOk := by
        rw [← hrun, Store.unanswered]
        cases (call.run s).1 <;> rfl
      have hstore : (call.run s).2 = (write.run s).2 := congrArg Prod.snd hrun
      have htag := write.tag?_run h
      rw [hstore, htag, hanswer]
      by_cases hok : (call.run s).1.isOk = true
      · exact .inr ⟨write, rfl, hok, by rw [if_pos hok]⟩
      · exact .inl (by rw [if_neg hok])

/-- **A call that fails** leaves the store as it was. -/
theorem snd_run_of_error (h : (call.run s).1 = .error e) : (call.run s).2 = s := by
  cases hwrite : call.onTags? with
  | some write =>
      have hrun := unanswered_run hwrite s
      have hfails : (write.run s).1 = .error e := hrun ▸ Store.unanswered_of_error h
      exact (congrArg Prod.snd hrun).trans (write.snd_run_of_error hfails)
  | none =>
      cases call with
      | read lookUp => rw [run_read]
      | catalogUpdateAttribute => rw [run_catalogUpdateAttribute hwrite]
      | createActivity | cancelActivity | createRevision => exact Store.write_of_error h
      | getOrCreateSettings => exact Store.getOrCreateSettings_of_error h
      | setRequiredTag => exact Store.setRequiredTag_of_error h
      | addTags | removeTag | updateTag | updateQuestionCount | updateSynonyms | updateAttribute
      | catalogAddTags | catalogRemoveTag | catalogUpdateTag | catalogUpdateQuestionCount
      | catalogUpdateSynonyms => cases hwrite

/-- A read leaves the store as it was. -/
theorem snd_run_of_isRead (h : call.isRead = true) : (call.run s).2 = s := by
  cases call with
  | read lookUp => rw [run_read]
  | _ => cases h

/-- Every call keeps the tag table consistent. -/
theorem hasConsistentTags_run (h : s.HasConsistentTags) (call : Call α) :
    (call.run s).2.HasConsistentTags := by
  cases hwrite : call.onTags? with
  | some write =>
      have hrun : (call.run s).2 = (write.run s).2 := congrArg Prod.snd (unanswered_run hwrite s)
      rw [hrun]
      exact write.hasConsistentTags_run h
  | none => exact h.of_rows?_eq (rows?_tag_run hwrite s)

end Call

namespace Store

/-- **The store behind some calls** on a store in which nothing was stored. -/
def afterCalls (calls : List ((α : Type) × Call α)) : Store :=
  calls.foldl (fun s call => (call.2.run s).2) fresh

/-- Every run of calls keeps the tag table consistent. -/
theorem HasConsistentTags.foldl {s : Store} (h : s.HasConsistentTags)
    (calls : List ((α : Type) × Call α)) :
    (calls.foldl (fun s call => (call.2.run s).2) s).HasConsistentTags := by
  induction calls generalizing s with
  | nil => exact h
  | cons call more ih => exact ih (call.2.hasConsistentTags_run h)

/-- **Every store behind some calls has a consistent tag table.** -/
theorem hasConsistentTags_afterCalls (calls : List ((α : Type) × Call α)) :
    (afterCalls calls).HasConsistentTags :=
  hasConsistentTags_fresh.foldl calls

end Store

namespace Call

variable {α : Type}

/-- **Reads, and calls that fail, leave the store as it was**: the rows of its four tables, and
which of the tables there are. -/
theorem run_eq_self (call : Call α) (s : Store)
    (h : call.isRead = true ∨ ∃ e, (call.run s).1 = .error e) : (call.run s).2 = s := by
  rcases h with hread | ⟨e, herror⟩
  · exact snd_run_of_isRead hread
  · exact snd_run_of_error herror

/-- Two new tags, the second with the name of a tag that there is. -/
def takenBatch : Call (List Tag) :=
  .addTags ["t2", "t3"] .epoch
    [⟨"rust", "Rust", "", "", false, false⟩, ⟨"go", "Go", "", "", false, false⟩]

/-- A store with a deleted tag, and without a table for the setting. -/
def deletedGo : Store :=
  (Store.afterCalls
    [⟨_, .addTags ["t1"] .epoch [⟨"go", "Go", "", "", false, false⟩]⟩,
     ⟨_, .removeTag "t1" .epoch⟩]).migrateDown (some 1) |>.2

/-- Nothing is stored of new tags one of which takes the name of a deleted tag. -/
theorem run_eq_self_takenBatch :
    (∃ e, (takenBatch.run deletedGo).1 = .error e) ∧ (takenBatch.run deletedGo).2 = deletedGo := by
  have herror : ∃ e, (takenBatch.run deletedGo).1 = .error e := ⟨_, rfl⟩
  exact ⟨herror, run_eq_self takenBatch deletedGo (.inr herror)⟩

end Call

end TagTimeline
