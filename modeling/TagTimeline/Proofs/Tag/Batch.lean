import Mathlib.Data.List.Forall2
import TagTimeline.Proofs.Store.Call

/-!
# Batches of New Tags

When a batch of new tags is stored, and what is stored of it. Under ids that are new and rising a
batch is refused for one reason only: one of its slug names is that of a tag that is stored, which
may have been deleted, or that of another tag of the batch. It is then refused as a whole. A batch
that is not refused is stored as a whole, behind the tags that are stored, and answered as it is
stored.

## Main results

* `NewTag.allowed_add_iff` — which batches can be stored.
* `Store.addTags_of_areFree` and `Store.addTags_of_not_areFree` — what becomes of a batch.
* `Store.addTags_afterCalls` — batches in every run.
-/

namespace TagTimeline

open Time

namespace NewTag

variable {ids : List String} {new : List NewTag} {rows : List Tag}

/-- **A new tag as it is stored**: what was asked for, available, without followers, questions, main
tag and revisions, and both made and last changed at the time of its batch. -/
structure IsStoredAs (now : Timestamp) (new : NewTag) (tag : Tag) : Prop where
  slugName : tag.slugName = new.slugName
  displayName : tag.displayName = new.displayName
  originalText : tag.originalText = new.originalText
  parsedText : tag.parsedText = new.parsedText
  recommend : tag.recommend = new.recommend
  reserved : tag.reserved = new.reserved
  status : tag.status = .available
  followCount : tag.followCount = 0
  questionCount : tag.questionCount = 0
  mainTagId : tag.mainTagId = none
  mainTagSlugName : tag.mainTagSlugName = none
  revisionId : tag.revisionId = "0"
  createdAt : tag.createdAt = now
  updatedAt : tag.updatedAt = now

/-- **Whether the slug names of a batch are free**: no two tags of the batch have the same, and no
tag that is stored has one of them, whatever its status. -/
structure AreFree (rows : List Tag) (new : List NewTag) : Prop where
  distinct : (new.map NewTag.slugName).Nodup
  unused : ∀ tag ∈ new, ∀ old ∈ rows, old.slugName ≠ tag.slugName

instance (rows : List Tag) (new : List NewTag) : Decidable (AreFree rows new) :=
  decidable_of_iff
    ((new.map NewTag.slugName).Nodup ∧ ∀ tag ∈ new, ∀ old ∈ rows, old.slugName ≠ tag.slugName)
    ⟨fun h => ⟨h.1, h.2⟩, fun h => ⟨h.distinct, h.unused⟩⟩

/-- The tags made of new ones are made of them one by one, each with its id. -/
theorem made_eq_map (ids : List String) (now : Timestamp) (new : List NewTag) :
    made ids now new = (new.zip ids).map fun pair => pair.1.toTag pair.2 now :=
  List.map_uncurry_zip_eq_zipWith.symm

/-- The tags made of new ones have the ids that they are made under. -/
theorem map_id_made (h : ids.length = new.length) (now : Timestamp) :
    (made ids now new).map Tag.id = ids := by
  rw [made_eq_map, List.map_map]
  exact List.map_snd_zip (Nat.le_of_eq h)

/-- The tags made of new ones have the slug names of these. -/
theorem map_slugName_made (h : ids.length = new.length) (now : Timestamp) :
    (made ids now new).map Tag.slugName = new.map NewTag.slugName := by
  calc (made ids now new).map Tag.slugName
      = ((new.zip ids).map Prod.fst).map NewTag.slugName := by
        rw [made_eq_map, List.map_map, List.map_map]
        rfl
    _ = new.map NewTag.slugName := by rw [List.map_fst_zip (Nat.le_of_eq h.symm)]

/-- **The tags made of new ones** are stored as what was asked for. -/
theorem forall₂_made (h : ids.length = new.length) (now : Timestamp) :
    List.Forall₂ (IsStoredAs now) new (made ids now new) := by
  induction new generalizing ids with
  | nil => exact .nil
  | cons tag more ih =>
      cases ids with
      | nil => cases h
      | cons id ids =>
          exact .cons ⟨rfl, rfl, rfl, rfl, rfl, rfl, rfl, rfl, rfl, rfl, rfl, rfl, rfl, rfl⟩
            (ih (Nat.succ.inj h))

section

variable (hlength : ids.length = new.length)

include hlength

/-- Tags that are made under new ids have the id of no tag that is stored. -/
theorem id_ne_of_mem_made (hfresh : ∀ old ∈ rows, old.id ∉ ids) (now : Timestamp) :
    ∀ tag ∈ made ids now new, ∀ old ∈ rows, old.id ≠ tag.id := by
  intro tag htag old hold heq
  have hmem := List.mem_map_of_mem htag (f := Tag.id)
  rw [map_id_made hlength, ← heq] at hmem
  exact hfresh old hold hmem

/-- Tags that are made under distinct ids have distinct ids. -/
theorem pairwise_id_made (hids : ids.Nodup) (now : Timestamp) :
    (made ids now new).Pairwise fun old tag => old.id ≠ tag.id :=
  List.pairwise_map.mp (by rw [map_id_made hlength]; exact hids)

/-- **Which batches can be stored** under new and distinct ids: those whose slug names are free. -/
theorem allowed_add_iff (hids : ids.Nodup) (hfresh : ∀ old ∈ rows, old.id ∉ ids)
    (now : Timestamp) : (TagWrite.add ids now new).Allowed rows ↔ AreFree rows new := by
  have hslugs : (made ids now new).Pairwise (fun old tag => old.slugName ≠ tag.slugName) ↔
      (new.map NewTag.slugName).Nodup := by
    rw [← map_slugName_made hlength now, List.Nodup, List.pairwise_map]
  have hunused : (∀ tag ∈ made ids now new, ∀ old ∈ rows, old.slugName ≠ tag.slugName) ↔
      ∀ tag ∈ new, ∀ old ∈ rows, old.slugName ≠ tag.slugName := by
    rw [← List.forall_mem_map (P := fun name => ∀ old ∈ rows, old.slugName ≠ name),
      map_slugName_made hlength now, List.forall_mem_map]
  simp only [TagWrite.Allowed, Tag.clash?_eq_none_iff, List.pairwise_and_iff]
  constructor
  · rintro ⟨hnew, -, hpair⟩
    exact ⟨hslugs.mp hpair, hunused.mp fun tag htag old hold => (hnew tag htag old hold).2⟩
  · rintro ⟨hpair, hnew⟩
    exact ⟨fun tag htag old hold => ⟨id_ne_of_mem_made hlength hfresh now tag htag old hold,
      hunused.mpr hnew tag htag old hold⟩, pairwise_id_made hlength hids now, hslugs.mpr hpair⟩

end

end NewTag

namespace Tag

/-- Tags with ids of their own can only clash in their slug names. -/
theorem eq_takenKey_of_clash? {new old : Tag} (h : old.id ≠ new.id) (failure : StatementFailure)
    (hclash : clash? new old = some failure) :
    failure = .takenKey TableName.tag.name "slug_name" := by
  rw [clash?, if_neg h] at hclash
  split at hclash
  · exact (Option.some.inj hclash).symm
  · cases hclash

end Tag

namespace Store

variable {s s' : Store} {rows tags : List Tag} {ids : List String} {new : List NewTag}

/-- Why a batch is refused. -/
def takenSlugName : ServiceError :=
  .storage "insert tag list" "UNIQUE constraint failed: tag.slug_name"

section

variable (hrows : s.rows? Tag = some rows) (hlength : ids.length = new.length) (hids : ids.Nodup)
  (hfresh : ∀ old ∈ rows, old.id ∉ ids)

include hrows hlength hids hfresh

/-- **A batch whose slug names are free is stored**, behind the tags that are stored. -/
theorem addTags_of_areFree (hfree : NewTag.AreFree rows new) (now : Timestamp) :
    s.addTags ids now new =
      (.ok (NewTag.made ids now new), s.withRows (rows ++ NewTag.made ids now new)) := by
  rcases addTags_eq hrows ids now new with ⟨-, hadd⟩ | ⟨hallowed, -⟩
  · exact hadd
  · exact absurd ((NewTag.allowed_add_iff hlength hids hfresh now).mpr hfree) hallowed

/-- **A batch is refused** for its slug names, and then none of it is stored. -/
theorem addTags_of_not_areFree (htaken : ¬ NewTag.AreFree rows new) (now : Timestamp) :
    s.addTags ids now new = (.error takenSlugName, s) := by
  cases new with
  | nil => exact absurd ⟨List.nodup_nil, fun _ h => absurd h List.not_mem_nil⟩ htaken
  | cons tag more =>
      have hwrite := write_eq hrows "insert tag list"
        (Statement.insertAll Tag.clash? (NewTag.made ids now (tag :: more)))
      cases hinsert : Statement.insertAll Tag.clash? (NewTag.made ids now (tag :: more)) rows with
      | ok result =>
          obtain ⟨hallowed, -⟩ := Statement.insertAll_eq_ok_iff.mp hinsert
          exact absurd ((NewTag.allowed_add_iff hlength hids hfresh now).mp hallowed) htaken
      | error failure =>
          have hid := NewTag.id_ne_of_mem_made hlength hfresh now
          have hpair := NewTag.pairwise_id_made hlength hids now
          obtain rfl : failure = .takenKey TableName.tag.name "slug_name" :=
            Statement.insertAll_error (P := (· = .takenKey TableName.tag.name "slug_name")) hinsert
              (fun new hnew old hold => Tag.eq_takenKey_of_clash? (hid new hnew old hold))
              (hpair.imp fun hne => Tag.eq_takenKey_of_clash? hne)
          rw [hinsert, NewTag.made] at hwrite
          simp only [addTags, List.isEmpty_cons, hwrite]
          rfl

end

/-- **Batches of new tags.** At every moment of any run, under ids that are new and rising: a batch
is stored exactly if its slug names are distinct and none is that of a tag that is stored, deleted
ones included. What is answered is then what was asked for, in its order and under these ids, and
is what the table has behind the tags that it had; nothing else has changed. If the batch is
refused, the store fails of a slug name, and nothing has changed. An empty batch needs no store. -/
theorem addTags_afterCalls (calls : List ((α : Type) × Call α)) :
    ∃ rows, (afterCalls calls).rows? Tag = some rows ∧
      (∀ ids now new, ids.length = new.length → (∀ old ∈ rows, old.id ∉ ids) →
        ids.Pairwise (· < ·) →
        ((∃ tags s', (afterCalls calls).addTags ids now new = (.ok tags, s')) ↔
          NewTag.AreFree rows new) ∧
        (∀ tags s', (afterCalls calls).addTags ids now new = (.ok tags, s') →
          s'.rows? Tag = some (rows ++ tags) ∧ s' = (afterCalls calls).withRows (rows ++ tags) ∧
          tags.length = new.length ∧ List.Forall₂ (NewTag.IsStoredAs now) new tags ∧
          tags.map Tag.id = ids ∧ (∀ tag ∈ tags, ∀ old ∈ rows, old.id ≠ tag.id) ∧
          tags.Pairwise fun before tag => before.id < tag.id) ∧
        ∀ e s', (afterCalls calls).addTags ids now new = (.error e, s') →
          e = takenSlugName ∧ s' = afterCalls calls) ∧
      ∀ (s : Store) ids now, s.addTags ids now [] = (.ok [], s) := by
  obtain ⟨rows, hrows, -⟩ := hasConsistentTags_afterCalls calls
  refine ⟨rows, hrows, fun ids now new hlength hfresh hrising => ?_, fun s ids now => rfl⟩
  have hids : ids.Nodup := hrising.imp fun hlt => String.ne_of_lt hlt
  by_cases hfree : NewTag.AreFree rows new
  · have hadd := addTags_of_areFree hrows hlength hids hfresh hfree now
    rw [hadd]
    refine ⟨⟨fun _ => hfree, fun _ => ⟨_, _, rfl⟩⟩, ?_, ?_⟩
    · rintro _ _ ⟨⟩
      have hstored := NewTag.forall₂_made hlength now
      have hmade := NewTag.map_id_made hlength now
      refine ⟨rows?_withRows hrows _, rfl, hstored.length_eq.symm, hstored, hmade,
        NewTag.id_ne_of_mem_made hlength hfresh now, List.pairwise_map.mp ?_⟩
      rw [hmade]
      exact hrising
    · rintro _ _ ⟨⟩
  · have hadd := addTags_of_not_areFree hrows hlength hids hfresh hfree now
    rw [hadd]
    refine ⟨⟨?_, fun h => absurd h hfree⟩, ?_, ?_⟩
    · rintro ⟨_, _, ⟨⟩⟩
    · rintro _ _ ⟨⟩
    · rintro _ _ ⟨⟩
      exact ⟨rfl, rfl⟩

/-- A new tag without a description. -/
def named (slugName : String) : NewTag := ⟨slugName, slugName, "", "", false, false⟩

/-- A tag that is stored and then deleted. -/
def goDeleted : List ((α : Type) × Call α) :=
  [⟨_, .addTags ["t1"] .epoch [named "go"]⟩, ⟨_, .removeTag "t1" .epoch⟩]

/-- A batch is stored behind the deleted tag, and one that takes its slug name is not. -/
theorem addTags_afterCalls_goDeleted :
    (∃ tags s', (afterCalls goDeleted).addTags ["t2", "t3"] .epoch [named "rust", named "c"] =
        (.ok tags, s') ∧ tags.map Tag.id = ["t2", "t3"]) ∧
      (afterCalls goDeleted).addTags ["t2", "t3"] .epoch [named "rust", named "go"] =
        (.error takenSlugName, afterCalls goDeleted) := by
  obtain ⟨rows, hrows, hbatch, -⟩ := addTags_afterCalls goDeleted
  obtain rfl : [{ (named "go").toTag "t1" .epoch with status := .deleted }] = rows :=
    Option.some.inj hrows
  have hstored := hbatch ["t2", "t3"] .epoch [named "rust", named "c"] rfl (by decide) (by decide)
  have hrefused := hbatch ["t2", "t3"] .epoch [named "rust", named "go"] rfl (by decide) (by decide)
  constructor
  · obtain ⟨tags, s', hadd⟩ := hstored.1.mpr (by decide)
    obtain ⟨-, -, -, -, hids, -⟩ := hstored.2.1 tags s' hadd
    exact ⟨tags, s', hadd, hids⟩
  · cases hadd : (afterCalls goDeleted).addTags ["t2", "t3"] .epoch [named "rust", named "go"] with
    | mk answer s' =>
        cases answer with
        | ok tags => exact absurd (hrefused.1.mp ⟨tags, s', hadd⟩) (by decide)
        | error e =>
            obtain ⟨rfl, rfl⟩ := hrefused.2.2 e s' hadd
            rfl

end Store

end TagTimeline
