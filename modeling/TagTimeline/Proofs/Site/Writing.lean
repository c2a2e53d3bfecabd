import TagTimeline.Proofs.Store.Writing
import TagTimeline.Site.Setting

/-!
# Writing the Row of Settings

What the operations on the setting make of its table, which holds one row at most. Making the row
leaves a row that there is; setting the setting overwrites it, or makes it first. Both answer the
row that is stored behind them.

## Main results

* `Store.HasSettings.getOrCreateSettings_eq`, `Store.HasSettings.setRequiredTag_eq` — what is
  answered and what is stored.
-/

namespace TagTimeline

open Time

namespace SiteSettings

/-- A row of settings behind the setting of a value. -/
def setting (requiredTag : Bool) (now : Timestamp) (row : SiteSettings) : SiteSettings :=
  { row with requiredTag := requiredTag, updatedAt := some now }

end SiteSettings

namespace Store

/-- **What the table of settings holds**: no row, or one row under the id of the site. -/
structure HasSettings (s : Store) (row? : Option SiteSettings) : Prop where
  rows : s.rows? SiteSettings = some row?.toList
  id : ∀ row ∈ row?, row.id = SiteSettings.siteId

namespace HasSettings

variable {s : Store} {row? : Option SiteSettings}

/-- What a table of settings holds is told by its rows. -/
theorem of_rows?_eq {s' : Store} (h : s.HasSettings row?)
    (hrows : s'.rows? SiteSettings = s.rows? SiteSettings) : s'.HasSettings row? :=
  ⟨hrows.trans h.rows, h.id⟩

/-- **The row of settings is found** if there is one. -/
theorem findSettings_eq (h : s.HasSettings row?) : s.findSettings = .ok row? := by
  refine select_ok_iff.mpr ⟨_, h.rows, ?_⟩
  cases row? with
  | none => rfl
  | some row =>
      have hid : (row.id == SiteSettings.siteId) = true := beq_iff_eq.mpr (h.id row rfl)
      exact List.find?_cons_of_pos hid

/-- **A store without settings** has the setting off. -/
theorem tagRequired_stored (h : s.HasSettings row?) :
    SettingSource.stored.tagRequired s = .ok (row?.any SiteSettings.requiredTag) := by
  rw [SettingSource.tagRequired, h.findSettings_eq]
  rfl

/-- **A row of settings that exists** stays as it is and is answered. -/
theorem getOrCreateSettings_of_some {row : SiteSettings} (h : s.HasSettings (some row))
    (requiredTag : Bool) (now : Timestamp) :
    s.getOrCreateSettings requiredTag now = (.ok row, s) := by
  rw [getOrCreateSettings, h.findSettings_eq]

/-- **The row of settings is made** if there is none. -/
theorem getOrCreateSettings_of_none (h : s.HasSettings none) (requiredTag : Bool)
    (now : Timestamp) :
    s.getOrCreateSettings requiredTag now =
      (.ok (SiteSettings.first requiredTag now),
        s.withRows [SiteSettings.first requiredTag now]) := by
  rw [getOrCreateSettings, h.findSettings_eq]
  simp only [insertSettings]
  rw [write_eq h.rows]
  rfl

/-- **Making the row of settings** answers the row that is there afterwards. -/
theorem getOrCreateSettings_eq (h : s.HasSettings row?) (requiredTag : Bool) (now : Timestamp) :
    ∃ s', s.getOrCreateSettings requiredTag now =
        (.ok (row?.getD (SiteSettings.first requiredTag now)), s') ∧
      s'.HasSettings (some (row?.getD (SiteSettings.first requiredTag now))) := by
  cases row? with
  | none =>
      refine ⟨_, h.getOrCreateSettings_of_none requiredTag now, rows?_withRows h.rows _, ?_⟩
      rintro row ⟨⟩
      rfl
  | some row => exact ⟨s, h.getOrCreateSettings_of_some requiredTag now, h⟩

/-- **Setting the setting** overwrites the row that there is, or one that is made first, and answers
what it stores. -/
theorem setRequiredTag_eq (h : s.HasSettings row?) (requiredTag : Bool) (made changed : Timestamp) :
    ∃ row s', row = (row?.getD (SiteSettings.first requiredTag made)).setting requiredTag changed ∧
      s.setRequiredTag requiredTag made changed = (.ok row, s') ∧ s'.HasSettings (some row) := by
  obtain ⟨s₁, hcreate, h₁⟩ := h.getOrCreateSettings_eq requiredTag made
  have hid := h₁.id _ rfl
  refine ⟨_, s₁.withRows [_], rfl, ?_, rows?_withRows h₁.rows _, ?_⟩
  · rw [setRequiredTag, hcreate]
    simp only
    rw [write_eq h₁.rows]
    -- the row that is overwritten is the only one
    simp [overwriteSettings, SiteSettings.setting]
  · rintro row ⟨⟩
    exact hid

end HasSettings

end Store

end TagTimeline
