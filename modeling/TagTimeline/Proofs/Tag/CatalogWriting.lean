import TagTimeline.Proofs.Tag.Writing
import TagTimeline.Tag.Catalog

/-!
# Writing through the Catalog

The operations of the catalog that write tags, as data, and runs of them. Each is an operation on
the stored tags, except that a flag with an unknown name is nobody's and changes nothing.

## Main results

* `CatalogWrite.run_eq` — an operation of the catalog as one on the stored tags.
* `CatalogWrite.hasConsistentTags_runAll` — the tag table stays consistent in every run.
-/

namespace TagTimeline

open Time

/-- **An operation of the catalog that writes tags**, with its arguments. -/
inductive CatalogWrite where
  | addTags (ids : List String) (now : Timestamp) (new : List NewTag)
  | removeTag (id : String) (now : Timestamp)
  | updateTag (tag : Tag) (now : Timestamp)
  | updateQuestionCount (id : String) (count : Int32)
  | updateSynonyms (names : List String) (mainTag : Option Tag)
  | updateAttribute (names : List String) (flagName : String) (value : Bool)

namespace CatalogWrite

/-- The operation on a store. -/
def run : CatalogWrite → Store → Outcome Unit
  | addTags ids now new, s => Store.unanswered (Catalog.addTags ids now new s)
  | removeTag id now, s => Catalog.removeTag id now s
  | updateTag tag now, s => Store.unanswered (Catalog.updateTag tag now s)
  | updateQuestionCount id count, s => Catalog.updateQuestionCount id count s
  | updateSynonyms names mainTag, s => Catalog.updateSynonyms names mainTag s
  | updateAttribute names flagName value, s => Catalog.updateAttribute names flagName value s

/-- The store behind some operations, one after the other. -/
def runAll (writes : List CatalogWrite) (s : Store) : Store :=
  writes.foldl (fun s write => (write.run s).2) s

/-- The operation as one on the stored tags; none for a flag that does not exist. -/
def onStore? : CatalogWrite → Option TagWrite
  | addTags ids now new => some (.add ids now new)
  | removeTag id now => some (.remove id now)
  | updateTag tag now => some (.update tag now)
  | updateQuestionCount id count => some (.updateQuestionCount id count)
  | updateSynonyms names mainTag =>
      some (.updateSynonyms names (mainTag.map Tag.id) (mainTag.map Tag.slugName))
  | updateAttribute names flagName value =>
      (TagAttribute.ofName? flagName).map fun flag => .updateAttribute names flag value

/-- An operation of the catalog is one on the stored tags, or does nothing and succeeds. -/
theorem run_eq (write : CatalogWrite) (s : Store) :
    write.run s = match write.onStore? with
      | some stored => stored.run s
      | none => (.ok (), s) := by
  cases write with
  | updateAttribute names flagName value =>
      simp only [run, Catalog.updateAttribute, onStore?]
      cases TagAttribute.ofName? flagName <;> rfl
  | addTags | removeTag | updateTag | updateQuestionCount | updateSynonyms => rfl

variable {s : Store}

/-- Every operation of the catalog keeps the tag table consistent. -/
theorem hasConsistentTags_run (h : s.HasConsistentTags) (write : CatalogWrite) :
    (write.run s).2.HasConsistentTags := by
  rw [run_eq]
  cases write.onStore? with
  | none => exact h
  | some stored => exact stored.hasConsistentTags_run h

/-- Every run of operations keeps the tag table consistent. -/
theorem hasConsistentTags_runAll (h : s.HasConsistentTags) (writes : List CatalogWrite) :
    (runAll writes s).HasConsistentTags := by
  induction writes generalizing s with
  | nil => exact h
  | cons write more ih => exact ih (write.hasConsistentTags_run h)

end CatalogWrite

end TagTimeline
