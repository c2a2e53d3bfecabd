import TagTimeline.Proofs.Tag.Batch
import TagTimeline.Proofs.Tag.LastWrite

/-!
# Overwriting Tags

What becomes of a tag that is overwritten, and of all others. Two questions decide it: whether a tag
is stored under the id, and whether another one goes by the slug name. The first is asked first, so
an id that nobody has is named in the failure even if the slug name is taken. A tag that is
overwritten stays where it is stored, and none but it changes; if it goes by another slug name from
then on, the one that it had can be given to new tags.

## Main results

* `Tag.kept` — what is stored of a tag that overwrites another.
* `Store.updateTag_of_absent`, `Store.updateTag_of_taken` and `Store.updateTag_of_free` — the three
  outcomes.
* `Store.hasGivenUp_withRows` — a slug name that is given up is free.
* `Store.updateTag_afterCalls` — overwriting in every run.
-/

namespace TagTimeline

open Time

namespace Tag

/-- **A tag as it is kept** when it overwrites a stored one: all of it except the time of the
change, and except its link if the main tag id is absent, empty or `0`. -/
def kept (now : Timestamp) (tag : Tag) : Tag :=
  { tag with
    mainTagId := (CatalogWrite.storedLink tag.mainTagId tag.mainTagSlugName).1
    mainTagSlugName := (CatalogWrite.storedLink tag.mainTagId tag.mainTagSlugName).2
    updatedAt := now }

/-- **Whether a tag is stored** under an id. -/
def IsStored (rows : List Tag) (id : String) : Prop := ∃ old ∈ rows, old.id = id

/-- **Whether another tag goes by the slug name** of a tag, of any status. -/
def IsTaken (rows : List Tag) (tag : Tag) : Prop :=
  ∃ other ∈ rows, other.id ≠ tag.id ∧ other.slugName = tag.slugName

instance (rows : List Tag) (id : String) : Decidable (IsStored rows id) :=
  inferInstanceAs (Decidable (∃ old ∈ rows, old.id = id))

instance (rows : List Tag) (tag : Tag) : Decidable (IsTaken rows tag) :=
  inferInstanceAs (Decidable (∃ other ∈ rows, _ ∧ _))

end Tag

namespace Store

open Tag

variable {s : Store} {rows : List Tag} {tag : Tag}

/-- Why a tag is not overwritten that is stored. -/
def takenNewName : ServiceError :=
  .storage "update tag" "UNIQUE constraint failed: tag.slug_name"

section

variable (hrows : s.rows? Tag = some rows)

include hrows

/-- **An id that no tag is stored under** is named in the failure, and nothing is changed. -/
theorem updateTag_of_absent (habsent : ¬ IsStored rows tag.id) (now : Timestamp) :
    s.updateTag tag now = (.error (.tagNotFound tag.id), s) := by
  have hany : rows.any (fun t => t.id == tag.id) = false := by
    rw [← Bool.not_eq_true]
    simpa [IsStored] using habsent
  rw [updateTag, write_eq hrows, overwriteTag]
  simp only [withUsableLink_id, hany, Bool.false_eq_true, if_false, withRows_self hrows]

/-- **A slug name that another tag goes by** is refused, and nothing is changed. -/
theorem updateTag_of_taken (hstored : IsStored rows tag.id) (htaken : IsTaken rows tag)
    (now : Timestamp) : s.updateTag tag now = (.error takenNewName, s) := by
  have hany : rows.any (fun t => t.id == tag.id) = true := by simpa [IsStored] using hstored
  have hslug : rows.any (fun t => t.id != tag.id && t.slugName == tag.slugName) = true := by
    simpa [IsTaken] using htaken
  rw [updateTag, write_eq hrows, overwriteTag]
  simp only [withUsableLink_id, withUsableLink_slugName, hany, hslug, if_true]
  rfl

/-- **A stored tag with a slug name of its own** is overwritten where it stands, and is answered as
it is kept. No other tag is touched. -/
theorem updateTag_of_free {front back : List Tag} {old : Tag} (hsplit : rows = front ++ old :: back)
    (hid : old.id = tag.id) (hother : ∀ other ∈ front ++ back, other.id ≠ tag.id)
    (hfree : ¬ IsTaken rows tag) (now : Timestamp) :
    s.updateTag tag now = (.ok (tag.kept now), s.withRows (front ++ tag.kept now :: back)) := by
  have hstored : IsStored rows tag.id :=
    ⟨old, hsplit ▸ List.mem_append_right front List.mem_cons_self, hid⟩
  have hmap : (rows.map fun t => if t.id == tag.id then tag.overwriting now else t) =
      front ++ tag.kept now :: back := by
    rw [hsplit, ← hid, CatalogWrite.overwriting_eq]
    simp only [beq_iff_eq]
    exact Keyed.map_ite_key_split (hid ▸ hother) fun _ => tag.kept now
  rcases updateTag_eq hrows tag now with ⟨-, hok⟩ | ⟨hrefused, -⟩
  · rw [hok, hmap, CatalogWrite.overwriting_eq, kept]
  · refine absurd ⟨hstored, fun other hmem hne hname => ?_⟩ hrefused
    exact hfree ⟨other, hmem, hne, hname⟩

end

/-- **Whether a slug name has been given up** for another: new tags can be stored under it, next to
slug names that no tag had. -/
def HasGivenUp (s : Store) (rows : List Tag) (slugName newName : String) : Prop :=
  ∀ ids now new, ids.length = new.length → ids.Nodup → (∀ row ∈ rows, row.id ∉ ids) →
    (new.map NewTag.slugName).Nodup →
    (∀ fresh ∈ new, fresh.slugName ≠ newName ∧
      (fresh.slugName = slugName ∨ ∀ row ∈ rows, row.slugName ≠ fresh.slugName)) →
    ∃ tags s', s.addTags ids now new = (.ok tags, s')

/-- **A tag that goes by another slug name** has given up the one that it had. -/
theorem hasGivenUp_withRows {front back : List Tag} {old new : Tag}
    (hrows : s.rows? Tag = some (front ++ old :: back)) (hid : new.id = old.id)
    (hslugs : ((front ++ old :: back).map Tag.slugName).Nodup) :
    (s.withRows (front ++ new :: back)).HasGivenUp (front ++ old :: back) old.slugName
      new.slugName := by
  intro ids now batch hlength hids hfresh hdistinct hnames
  have hold : ∀ other ∈ front ++ back, other.slugName ≠ old.slugName := by
    rw [List.map_append, List.map_cons, List.nodup_middle, List.nodup_cons, ← List.map_append]
      at hslugs
    intro other hother hsame
    exact hslugs.1 (hsame ▸ List.mem_map_of_mem hother)
  have hkept {row : Tag} (hrow : row ∈ front ++ new :: back) :
      row = new ∨ row ∈ front ++ back := by
    simpa only [List.mem_append, List.mem_cons, or_left_comm] using hrow
  have hmem {row : Tag} (hrow : row ∈ front ++ back) : row ∈ front ++ old :: back := by
    simp only [List.mem_append, List.mem_cons] at hrow ⊢
    exact hrow.imp_right .inr
  have hunused : ∀ fresh ∈ batch, ∀ row ∈ front ++ new :: back,
      row.slugName ≠ fresh.slugName := by
    intro fresh hbatch row hrow
    obtain ⟨hnew, hname⟩ := hnames fresh hbatch
    rcases hkept hrow with rfl | hrow
    · exact hnew.symm
    · rcases hname with hname | hname
      · exact hname ▸ hold row hrow
      · exact hname row (hmem hrow)
  have hfresh' : ∀ row ∈ front ++ new :: back, row.id ∉ ids := by
    intro row hrow
    rcases hkept hrow with rfl | hrow
    · exact hid ▸ hfresh old (List.mem_append_right front List.mem_cons_self)
    · exact hfresh row (hmem hrow)
  exact ⟨_, _, addTags_of_areFree (rows?_withRows hrows _) hlength hids hfresh'
    ⟨hdistinct, hunused⟩ now⟩

/-- **Overwriting a tag.** At every moment of any run, for every tag: it is not found exactly if no
tag is stored under its id, whoever goes by its slug name; the store refuses it exactly if one is
and another tag goes by its slug name, whatever the status of that; and it is overwritten
otherwise. If it fails nothing has changed. If it is overwritten, it is stored where the old one
was, as it is kept, which is also what is answered, and nothing else has changed; and the slug name
that it had, if it is another one now, has been given up. -/
theorem updateTag_afterCalls (calls : List ((α : Type) × Call α)) :
    ∃ rows, (afterCalls calls).rows? Tag = some rows ∧ ∀ tag now,
      (((afterCalls calls).updateTag tag now).1 = .error (.tagNotFound tag.id) ↔
        ¬ IsStored rows tag.id) ∧
      ((∃ why, ((afterCalls calls).updateTag tag now).1 = .error (.database why)) ↔
        IsStored rows tag.id ∧ IsTaken rows tag) ∧
      ((∃ kept, ((afterCalls calls).updateTag tag now).1 = .ok kept) ↔
        IsStored rows tag.id ∧ ¬ IsTaken rows tag) ∧
      (∀ e s', (afterCalls calls).updateTag tag now = (.error e, s') → s' = afterCalls calls) ∧
      ∀ kept s', (afterCalls calls).updateTag tag now = (.ok kept, s') →
        kept = tag.kept now ∧
        ∃ front old back, rows = front ++ old :: back ∧ old.id = tag.id ∧
          (∀ other ∈ front ++ back, other.id ≠ tag.id) ∧
          s'.rows? Tag = some (front ++ kept :: back) ∧
          s' = (afterCalls calls).withRows (front ++ kept :: back) ∧
          s'.HasGivenUp rows old.slugName tag.slugName := by
  obtain ⟨rows, hrows, hconsistent⟩ := hasConsistentTags_afterCalls calls
  refine ⟨rows, hrows, fun tag now => ?_⟩
  by_cases hstored : IsStored rows tag.id
  · by_cases htaken : IsTaken rows tag
    · have hupdate := updateTag_of_taken hrows hstored htaken now
      rw [hupdate]
      simp [hstored, htaken, takenNewName, ServiceError.storage, eq_comm]
    · have ⟨old, hold, hid⟩ := hstored
      obtain ⟨front, back, hsplit, hother⟩ := Keyed.exists_split hconsistent.ids hold
      rw [hid] at hother
      have hupdate := updateTag_of_free hrows hsplit hid hother htaken now
      rw [hupdate]
      refine ⟨?_, ?_, ?_, ?_, ?_⟩
      · simp [hstored]
      · simp [htaken]
      · simp [hstored, htaken]
      · rintro e s' ⟨⟩
      · rintro kept s' ⟨⟩
        refine ⟨rfl, front, old, back, hsplit, hid, hother, rows?_withRows hrows _, rfl, ?_⟩
        have hkeptId : (tag.kept now).id = old.id := hid.symm
        have hgiven := hasGivenUp_withRows (hsplit ▸ hrows) hkeptId
          (hsplit ▸ hconsistent.slugNames)
        rwa [← hsplit] at hgiven
  · have hupdate := updateTag_of_absent hrows hstored now
    rw [hupdate]
    simp [hstored, eq_comm]

/-- Two tags, the second of them deleted. -/
def rustOnly : List ((α : Type) × Call α) :=
  [⟨_, .addTags ["t1", "t2"] .epoch [named "rust", named "go"]⟩, ⟨_, .removeTag "t2" .epoch⟩]

/-- A tag that is not deleted, under an id and a slug name, with a link that leads nowhere. -/
def linkedNowhere (id slugName : String) : Tag :=
  { (named slugName).toTag id .epoch with
    mainTagId := some "0"
    mainTagSlugName := some "nowhere" }

/-- The slug name of the deleted tag is refused to the other one; an unknown id is not found, though
the slug name is taken; and where the other one is given a third slug name it loses its link, and
a new tag can go by the name that it had. -/
theorem updateTag_afterCalls_rustOnly :
    (∃ why, ((afterCalls rustOnly).updateTag (linkedNowhere "t1" "go") .epoch).1 =
      .error (.database why)) ∧
    ((afterCalls rustOnly).updateTag (linkedNowhere "t3" "go") .epoch).1 =
      .error (.tagNotFound "t3") ∧
    ∃ s' tags s'',
      (afterCalls rustOnly).updateTag (linkedNowhere "t1" "c") .epoch =
        (.ok ((named "c").toTag "t1" .epoch), s') ∧
      s'.addTags ["t3"] .epoch [named "rust"] = (.ok tags, s'') := by
  obtain ⟨rows, hrows, hupdate⟩ := updateTag_afterCalls rustOnly
  obtain rfl : [(named "rust").toTag "t1" .epoch,
      { (named "go").toTag "t2" .epoch with status := .deleted }] = rows :=
    Option.some.inj hrows
  obtain ⟨-, htaken, -⟩ := hupdate (linkedNowhere "t1" "go") .epoch
  obtain ⟨habsent, -⟩ := hupdate (linkedNowhere "t3" "go") .epoch
  obtain ⟨-, -, hfree, -, hkept⟩ := hupdate (linkedNowhere "t1" "c") .epoch
  refine ⟨htaken.mpr (by decide), habsent.mpr (by decide), ?_⟩
  obtain ⟨kept, hok⟩ := hfree.mpr (by decide)
  obtain ⟨rfl, front, old, back, hsplit, hid, -, -, -, hgiven⟩ := hkept kept _ (Prod.ext hok rfl)
  have hold : old ∈ [(named "rust").toTag "t1" .epoch,
      { (named "go").toTag "t2" .epoch with status := .deleted }] :=
    hsplit ▸ List.mem_append_right front List.mem_cons_self
  have hname : old.slugName = "rust" := by
    rcases List.mem_cons.mp hold with rfl | hold
    · rfl
    · obtain rfl := List.mem_singleton.mp hold
      exact absurd hid (by decide)
  rw [hname] at hgiven
  obtain ⟨tags, s'', hadd⟩ := hgiven ["t3"] .epoch [named "rust"] rfl (by decide) (by decide)
    (by decide) (by decide)
  exact ⟨_, tags, s'', Prod.ext hok rfl, hadd⟩

end Store

end TagTimeline
