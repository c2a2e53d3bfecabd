import TagTimeline.Activity.Log
import TagTimeline.Proofs.Site.Writing
import TagTimeline.Proofs.Tag.CatalogWriting
import TagTimeline.Revision.History

/-!
# Reachable Stores

The stores that the operations of clients lead to: writes of tags, of the setting, of revisions and
of activities, in any order and whether they succeed or not. In all of them the tag table is
consistent, and the table of settings has at most the one row, which holds what the operations on
the setting amount to: the value that was set last, or else the one that the row was made with.

## Main results

* `Store.isSound_after` — the invariant of every run.
* `SettingSource.effective_after` — what the tag reads take the setting for.
-/

namespace TagTimeline

open Time

/-- **An operation of a client that writes**, with its arguments. -/
inductive Operation where
  | tag (write : CatalogWrite)
  | getOrCreateSettings (requiredTag : Bool) (now : Timestamp)
  | setRequiredTag (requiredTag : Bool) (made changed : Timestamp)
  | createRevision (id : String) (now : Timestamp) (new : NewRevision)
  | createActivity (id : String) (now : Timestamp) (new : NewActivity)
  | cancelActivity (id : String) (now : Timestamp)

namespace Operation

/-- The store behind an operation. -/
def run : Operation → Store → Store
  | tag write, s => (write.run s).2
  | getOrCreateSettings requiredTag now, s => (s.getOrCreateSettings requiredTag now).2
  | setRequiredTag requiredTag made changed, s => (s.setRequiredTag requiredTag made changed).2
  | createRevision id now new, s => (s.createRevision id now new).2
  | createActivity id now new, s => (s.createActivity id now new).2
  | cancelActivity id now, s => (s.cancelActivity id now).2

/-- What an operation makes of the setting, if there is one yet. -/
def setting : Operation → Option Bool → Option Bool
  | getOrCreateSettings requiredTag _, setting => some (setting.getD requiredTag)
  | setRequiredTag requiredTag _ _, _ => some requiredTag
  | _, setting => setting

/-- **The setting behind some operations**, if there is one. -/
def settingAfter (operations : List Operation) : Option Bool :=
  operations.foldl (fun setting operation => operation.setting setting) none

end Operation

namespace Store

/-- **The store behind some operations** on a store in which nothing was stored. -/
def after (operations : List Operation) : Store :=
  operations.foldl (fun s operation => operation.run s) fresh

/-- Whether the table of settings has no row, or the one row with a value. -/
def HasSetting (s : Store) (setting : Option Bool) : Prop :=
  ∃ rows, s.rows? SiteSettings = some rows ∧
    rows.map (fun row => (row.id, row.requiredTag)) =
      (setting.map fun requiredTag => (SiteSettings.siteId, requiredTag)).toList

variable {s : Store} {setting : Option Bool}

/-- The tag table is consistent if its rows are those of a consistent one. -/
theorem HasConsistentTags.of_rows?_eq {s' : Store} (h : s.HasConsistentTags)
    (hrows : s'.rows? Tag = s.rows? Tag) : s'.HasConsistentTags := by
  obtain ⟨rows, hs, hconsistent⟩ := h
  exact ⟨rows, hrows.trans hs, hconsistent⟩

/-- The setting is in the rows of the table of settings. -/
theorem HasSetting.of_rows?_eq {s' : Store} (h : s.HasSetting setting)
    (hrows : s'.rows? SiteSettings = s.rows? SiteSettings) : s'.HasSetting setting := by
  obtain ⟨rows, hs, hsetting⟩ := h
  exact ⟨rows, hrows.trans hs, hsetting⟩

/-- A setting is known exactly if the row of settings is, as far as its value goes. -/
theorem hasSetting_iff :
    s.HasSetting setting ↔
      ∃ row?, s.HasSettings row? ∧ row?.map SiteSettings.requiredTag = setting := by
  constructor
  · rintro ⟨rows, hrows, hsetting⟩
    cases setting with
    | none =>
        obtain rfl : rows = [] := List.map_eq_nil_iff.mp hsetting
        exact ⟨none, ⟨hrows, by simp⟩, rfl⟩
    | some requiredTag =>
        obtain ⟨row, rfl, hrow⟩ := List.map_eq_singleton_iff.mp hsetting
        obtain ⟨hid, hvalue⟩ := Prod.mk.inj hrow
        refine ⟨some row, ⟨hrows, ?_⟩, congrArg some hvalue⟩
        rintro row' ⟨⟩
        exact hid
  · rintro ⟨row?, hsettings, rfl⟩
    refine ⟨_, hsettings.rows, ?_⟩
    cases row? with
    | none => rfl
    | some row => simp [hsettings.id row rfl]

/-- **Making the row of settings** keeps the setting that there is. -/
theorem HasSetting.getOrCreateSettings (h : s.HasSetting setting) (requiredTag : Bool)
    (now : Timestamp) :
    (s.getOrCreateSettings requiredTag now).2.HasSetting (some (setting.getD requiredTag)) := by
  obtain ⟨row?, hsettings, rfl⟩ := hasSetting_iff.mp h
  obtain ⟨s', hcreate, hsettings'⟩ := hsettings.getOrCreateSettings_eq requiredTag now
  rw [hcreate]
  refine hasSetting_iff.mpr ⟨_, hsettings', ?_⟩
  cases row? <;> rfl

/-- **Setting the setting** leaves the value that it is set to. -/
theorem HasSetting.setRequiredTag (h : s.HasSetting setting) (requiredTag : Bool)
    (made changed : Timestamp) :
    (s.setRequiredTag requiredTag made changed).2.HasSetting (some requiredTag) := by
  obtain ⟨row?, hsettings, -⟩ := hasSetting_iff.mp h
  obtain ⟨row, s', rfl, hset, hsettings'⟩ := hsettings.setRequiredTag_eq requiredTag made changed
  rw [hset]
  exact hasSetting_iff.mpr ⟨_, hsettings', rfl⟩

section

variable {Other : Type} [Stored Other] [StoredApart SiteSettings Other]

/-- Making the row of settings leaves the rows of other tables. -/
theorem rows?_getOrCreateSettings_other (s : Store) (requiredTag : Bool) (now : Timestamp) :
    (s.getOrCreateSettings requiredTag now).2.rows? Other = s.rows? Other := by
  rw [getOrCreateSettings]
  cases s.findSettings with
  | error e => rfl
  | ok row? =>
      cases row? with
      | none => exact rows?_write_other s _ _
      | some row => rfl

/-- Setting the setting leaves the rows of other tables. -/
theorem rows?_setRequiredTag_other (s : Store) (requiredTag : Bool) (made changed : Timestamp) :
    (s.setRequiredTag requiredTag made changed).2.rows? Other = s.rows? Other := by
  rw [← rows?_getOrCreateSettings_other s requiredTag made, setRequiredTag]
  obtain ⟨answer, s'⟩ := s.getOrCreateSettings requiredTag made
  cases answer with
  | error e => rfl
  | ok row => exact rows?_write_other s' _ _

end

/-- Writing tags leaves the row of settings. -/
theorem rows?_siteSettings_run (s : Store) (write : CatalogWrite) :
    (write.run s).2.rows? SiteSettings = s.rows? SiteSettings := by
  rw [CatalogWrite.run_eq]
  cases write.onStore? with
  | none => rfl
  | some stored => exact stored.rows?_run_other s

/-- **The state that every store is in**: consistent tags, and the setting as it is known. -/
structure IsSound (s : Store) (setting : Option Bool) : Prop where
  tags : s.HasConsistentTags
  setting : s.HasSetting setting

/-- A new store has no tags and no setting. -/
theorem isSound_fresh : fresh.IsSound none :=
  ⟨hasConsistentTags_fresh, [], by decide, rfl⟩

/-- **Every operation keeps a store sound** and does to the setting what it is said to. -/
theorem IsSound.run (h : s.IsSound setting) (operation : Operation) :
    (operation.run s).IsSound (operation.setting setting) := by
  cases operation with
  | tag write =>
      exact ⟨write.hasConsistentTags_run h.tags,
        h.setting.of_rows?_eq (rows?_siteSettings_run s write)⟩
  | getOrCreateSettings requiredTag now =>
      exact ⟨h.tags.of_rows?_eq (rows?_getOrCreateSettings_other s requiredTag now),
        h.setting.getOrCreateSettings requiredTag now⟩
  | setRequiredTag requiredTag made changed =>
      exact ⟨h.tags.of_rows?_eq (rows?_setRequiredTag_other s requiredTag made changed),
        h.setting.setRequiredTag requiredTag made changed⟩
  | createRevision | createActivity | cancelActivity =>
      exact ⟨h.tags.of_rows?_eq (rows?_write_other s _ _),
        h.setting.of_rows?_eq (rows?_write_other s _ _)⟩

/-- Every run of operations keeps a store sound. -/
theorem IsSound.foldl (h : s.IsSound setting) (operations : List Operation) :
    (operations.foldl (fun s operation => operation.run s) s).IsSound
      (operations.foldl (fun setting operation => operation.setting setting) setting) := by
  induction operations generalizing s setting with
  | nil => exact h
  | cons operation more ih => exact ih (h.run operation)

/-- **Every reachable store is sound.** -/
theorem isSound_after (operations : List Operation) :
    (after operations).IsSound (Operation.settingAfter operations) :=
  isSound_fresh.foldl operations

end Store

namespace SettingSource

/-- **The setting as a source reads it** behind some operations: off if there is none or it cannot
be read. -/
def current (source : SettingSource) (operations : List Operation) : Bool :=
  match source with
  | fixed tagRequired => tagRequired
  | stored => (Operation.settingAfter operations).getD false
  | failing _ => false

/-- **What the tag reads take the setting for** is the setting as their source reads it. -/
theorem effective_after (source : SettingSource) (operations : List Operation) :
    source.effective (Store.after operations) = source.current operations := by
  cases source with
  | fixed tagRequired => rfl
  | failing e => rfl
  | stored =>
      obtain ⟨row?, hsettings, hvalue⟩ :=
        Store.hasSetting_iff.mp (Store.isSound_after operations).setting
      rw [effective, hsettings.tagRequired_stored, current, ← hvalue]
      cases row? <;> rfl

end SettingSource

end TagTimeline
