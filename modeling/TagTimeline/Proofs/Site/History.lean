import TagTimeline.Proofs.Site.Writing
import TagTimeline.Proofs.Store.Call

/-!
# The History of the Setting

What the row of settings is at any moment of a run, told by the writes of the setting so far and
nothing else. There is a row from the first of them on. It keeps the time at which it was made, it
has the value that was set last, or else the one that it was made with, and the time at which the
setting was set last. A row that exists is not made again: what a program starts with has no say
once there is a setting.

## Main results

* `SettingsWrite.row?` — the row that a history of writes amounts to.
* `Store.settingsFollow_afterCalls` — the table of settings follows the history in every run.
-/

namespace TagTimeline

open Time

/-- **A write of the setting**, with its times: that there is a row of settings, made with a value
if need be, or that the setting has a value. Setting it reads the clock for a row that has to be
made, and again for the change. -/
inductive SettingsWrite where
  | ensure (requiredTag : Bool) (made : Timestamp)
  | set (requiredTag : Bool) (made changed : Timestamp)

namespace SettingsWrite

/-- The value that a write comes with. -/
def requiredTag : SettingsWrite → Bool
  | ensure requiredTag _ | set requiredTag _ _ => requiredTag

/-- The time of a row that a write makes. -/
def made : SettingsWrite → Timestamp
  | ensure _ made | set _ made _ => made

/-- The time of the change, if a write sets the setting. -/
def changed? : SettingsWrite → Option Timestamp
  | ensure _ _ => none
  | set _ _ changed => some changed

/-- Whether a write sets the setting. -/
def isSet : SettingsWrite → Bool
  | ensure _ _ => false
  | set _ _ _ => true

/-- The last write that sets the setting. -/
def lastSet? (writes : List SettingsWrite) : Option SettingsWrite := (writes.filter isSet).getLast?

/-- The first write that only sees to it that there is a row. -/
def firstEnsure? (writes : List SettingsWrite) : Option SettingsWrite :=
  writes.find? fun write => !write.isSet

/-- **The setting that a history amounts to**: what was set last, or else what a row was first asked
for with, or else off. -/
def setting (writes : List SettingsWrite) : Bool :=
  (((lastSet? writes).or (firstEnsure? writes)).map requiredTag).getD false

/-- **The row that a history amounts to**: made by the first write, with the setting, and with the
time of the change by the last write that set it. -/
def row? (writes : List SettingsWrite) : Option SiteSettings :=
  writes.head?.map fun first =>
    { id := SiteSettings.siteId
      requiredTag := setting writes
      createdAt := first.made
      updatedAt := (lastSet? writes).bind changed? }

variable (writes : List SettingsWrite)

/-- A write that sees to the row is no write that sets the setting. -/
theorem lastSet?_concat_ensure (requiredTag : Bool) (now : Timestamp) :
    lastSet? (writes ++ [ensure requiredTag now]) = lastSet? writes := by
  have hnone : [ensure requiredTag now].filter isSet = [] := rfl
  rw [lastSet?, List.filter_append, hnone, List.append_nil, ← lastSet?]

/-- The write that sets the setting at the end is the last. -/
theorem lastSet?_concat_set (requiredTag : Bool) (made changed : Timestamp) :
    lastSet? (writes ++ [set requiredTag made changed]) = some (set requiredTag made changed) := by
  have hkept : [set requiredTag made changed].filter isSet = [set requiredTag made changed] := rfl
  rw [lastSet?, List.filter_append, hkept, List.getLast?_append]
  rfl

/-- If nothing was set, the first write of all asked for a row. -/
theorem firstEnsure?_of_head? {first : SettingsWrite} (hhead : writes.head? = some first)
    (hset : lastSet? writes = none) : firstEnsure? writes = some first := by
  obtain ⟨more, rfl⟩ : ∃ more, writes = first :: more := by
    cases writes with
    | nil => cases hhead
    | cons write more => exact ⟨more, by rw [Option.some.inj hhead]⟩
  have hnone : ∀ write ∈ first :: more, ¬ write.isSet = true :=
    List.filter_eq_nil_iff.mp (List.getLast?_eq_none_iff.mp hset)
  have hfirst : (!first.isSet) = true := by simpa using hnone first List.mem_cons_self
  exact List.find?_cons_of_pos hfirst

/-- **Asking for a row** gives the one that there is, or a first one. -/
theorem row?_concat_ensure (requiredTag : Bool) (now : Timestamp) :
    row? (writes ++ [ensure requiredTag now]) =
      some ((row? writes).getD (SiteSettings.first requiredTag now)) := by
  cases hhead : writes.head? with
  | none =>
      obtain rfl : writes = [] := List.head?_eq_none_iff.mp hhead
      rfl
  | some first =>
      have hsetting : setting (writes ++ [ensure requiredTag now]) = setting writes := by
        rw [setting, setting, lastSet?_concat_ensure]
        cases hset : lastSet? writes with
        | some write => rfl
        | none =>
            have hensure := firstEnsure?_of_head? writes hhead hset
            rw [firstEnsure?, List.find?_append, ← firstEnsure?, hensure]
            rfl
      have hhead' : (writes ++ [ensure requiredTag now]).head? = some first := by
        rw [List.head?_append, hhead]
        rfl
      rw [row?, row?, hhead', hhead, hsetting, lastSet?_concat_ensure]
      rfl

/-- **Setting the setting** changes the row that there is, or a first one. -/
theorem row?_concat_set (requiredTag : Bool) (made changed : Timestamp) :
    row? (writes ++ [set requiredTag made changed]) =
      some (((row? writes).getD (SiteSettings.first requiredTag made)).setting requiredTag
        changed) := by
  have hsetting : setting (writes ++ [set requiredTag made changed]) = requiredTag := by
    rw [setting, lastSet?_concat_set]
    rfl
  rw [row?, hsetting, lastSet?_concat_set, List.head?_append]
  cases hhead : writes.head? with
  | none =>
      rw [row?, hhead]
      rfl
  | some first =>
      rw [row?, hhead]
      rfl

/-- The row of a history has its setting. -/
theorem any_row? : (row? writes).any SiteSettings.requiredTag = setting writes := by
  cases writes <;> rfl

/-- Whatever is written behind it, a row stays, with the time at which it was made. -/
theorem row?_append {row : SiteSettings} (h : row? writes = some row)
    (more : List SettingsWrite) :
    ∃ row', row? (writes ++ more) = some row' ∧ row'.id = row.id ∧
      row'.createdAt = row.createdAt := by
  obtain ⟨first, hhead, rfl⟩ := Option.map_eq_some_iff.mp h
  have hhead' : (writes ++ more).head? = some first := by
    rw [List.head?_append, hhead]
    rfl
  exact ⟨_, congrArg (Option.map _) hhead', rfl, rfl⟩

end SettingsWrite

namespace Call

variable {α : Type} {s : Store}

/-- **The write of the setting that a call is**, if it is one. -/
def onSettings? : Call α → Option SettingsWrite
  | getOrCreateSettings requiredTag now => some (.ensure requiredTag now)
  | setRequiredTag requiredTag made changed => some (.set requiredTag made changed)
  | _ => none

/-- **A call that does not write the setting** leaves the row of settings. -/
theorem rows?_siteSettings_run {call : Call α} (h : call.onSettings? = none) (s : Store) :
    (call.run s).2.rows? SiteSettings = s.rows? SiteSettings := by
  refine rows?_run_other (fun hwritten => ?_) s
  cases call with
  | getOrCreateSettings | setRequiredTag => cases h
  | _ => cases hwritten

/-- **A call takes the row of settings one write further**, if it writes the setting, or leaves
it. -/
theorem hasSettings_run {writes : List SettingsWrite}
    (h : s.HasSettings (SettingsWrite.row? writes)) (call : Call α) :
    (call.run s).2.HasSettings (SettingsWrite.row? (writes ++ call.onSettings?.toList)) := by
  cases hwrite : call.onSettings? with
  | none =>
      rw [Option.toList_none, List.append_nil]
      exact h.of_rows?_eq (rows?_siteSettings_run hwrite s)
  | some write =>
      cases call with
      | getOrCreateSettings requiredTag now =>
          obtain ⟨s', hcreate, hsettings⟩ := h.getOrCreateSettings_eq requiredTag now
          cases hwrite
          rw [run, hcreate, Option.toList_some, SettingsWrite.row?_concat_ensure]
          exact hsettings
      | setRequiredTag requiredTag made changed =>
          obtain ⟨row, s', rfl, hset, hsettings⟩ := h.setRequiredTag_eq requiredTag made changed
          cases hwrite
          rw [run, hset, Option.toList_some, SettingsWrite.row?_concat_set]
          exact hsettings
      | _ => cases hwrite

end Call

namespace Store

/-- **The writes of the setting among some calls**, in their order. -/
def settingsWrites (calls : List ((α : Type) × Call α)) : List SettingsWrite :=
  calls.filterMap fun call => call.2.onSettings?

/-- Calls take the row of settings from write to write. -/
theorem HasSettings.foldl {s : Store} {writes : List SettingsWrite}
    (h : s.HasSettings (SettingsWrite.row? writes)) (calls : List ((α : Type) × Call α)) :
    (calls.foldl (fun s call => (call.2.run s).2) s).HasSettings
      (SettingsWrite.row? (writes ++ settingsWrites calls)) := by
  induction calls generalizing s writes with
  | nil =>
      rw [settingsWrites, List.filterMap_nil, List.append_nil]
      exact h
  | cons call more ih =>
      have hmore : settingsWrites (call :: more) =
          call.2.onSettings?.toList ++ settingsWrites more := by
        rw [settingsWrites, List.filterMap_cons]
        cases call.2.onSettings? <;> rfl
      rw [hmore, ← List.append_assoc]
      exact ih (call.2.hasSettings_run h)

/-- The row of settings behind some calls. -/
theorem hasSettings_afterCalls (calls : List ((α : Type) × Call α)) :
    (afterCalls calls).HasSettings (SettingsWrite.row? (settingsWrites calls)) := by
  have hfresh : fresh.HasSettings (SettingsWrite.row? []) :=
    ⟨by decide, by simp [SettingsWrite.row?]⟩
  exact hfresh.foldl calls

/-- **That the table of settings follows a history of writes**, as clients see it. -/
structure SettingsFollow (s : Store) (writes : List SettingsWrite) : Prop where
  /-- One row at most is stored, under the id of the site. -/
  stored : s.rows? SiteSettings = some (SettingsWrite.row? writes).toList ∧
    ∀ row ∈ SettingsWrite.row? writes, row.id = "site"
  found : s.findSettings = .ok (SettingsWrite.row? writes)
  setting : SettingSource.stored.tagRequired s = .ok (SettingsWrite.setting writes)
  /-- A row that exists is answered, and nothing changes. -/
  kept : ∀ row, SettingsWrite.row? writes = some row →
    ∀ requiredTag now, s.getOrCreateSettings requiredTag now = (.ok row, s)
  made : SettingsWrite.row? writes = none → ∀ requiredTag now, ∃ s',
    s.getOrCreateSettings requiredTag now = (.ok ⟨"site", requiredTag, now, none⟩, s') ∧
    s'.rows? SiteSettings = some [⟨"site", requiredTag, now, none⟩]
  /-- What is set is answered as it is stored, with the time of the change and the time at which the
  row was made, which is the first reading of the clock if it was not made yet. -/
  set : ∀ requiredTag made changed, ∃ row s',
    s.setRequiredTag requiredTag made changed = (.ok row, s') ∧
    s'.rows? SiteSettings = some [row] ∧
    row = ⟨"site", requiredTag, (writes.head?.map SettingsWrite.made).getD made, some changed⟩

/-- A table of settings that holds the row of a history follows it. -/
theorem HasSettings.settingsFollow {s : Store} {writes : List SettingsWrite}
    (h : s.HasSettings (SettingsWrite.row? writes)) : s.SettingsFollow writes where
  stored := ⟨h.rows, h.id⟩
  found := h.findSettings_eq
  setting := by rw [h.tagRequired_stored, SettingsWrite.any_row?]
  kept row hrow requiredTag now := by
    rw [hrow] at h
    exact h.getOrCreateSettings_of_some requiredTag now
  made hnone requiredTag now := by
    rw [hnone] at h
    exact ⟨_, h.getOrCreateSettings_of_none requiredTag now, rows?_withRows h.rows _⟩
  set requiredTag made changed := by
    obtain ⟨row, s', hrow, hset, hsettings⟩ := h.setRequiredTag_eq requiredTag made changed
    refine ⟨row, s', hset, hsettings.rows, ?_⟩
    rw [hrow]
    cases writes <;> rfl

/-- **The setting follows its history.** At every moment of a run, whatever calls it is made of, the
table of settings holds the row that the writes of the setting so far amount to: none before the
first of them; then one, with the value that was set last or else the one that a row was first asked
for with, made at the time of the first write, and changed at the time of the last write that set
it. All reads and writes of the setting answer that row, and at every later moment it is still
there, made at the same time. -/
theorem settingsFollow_afterCalls (before after : List ((α : Type) × Call α)) :
    (afterCalls before).SettingsFollow (settingsWrites before) ∧
    (afterCalls (before ++ after)).SettingsFollow
      (settingsWrites before ++ settingsWrites after) ∧
    ∀ row, (afterCalls before).rows? SiteSettings = some [row] →
      ∃ row', (afterCalls (before ++ after)).rows? SiteSettings = some [row'] ∧
        row'.id = row.id ∧ row'.createdAt = row.createdAt := by
  have hbefore := hasSettings_afterCalls before
  have hafter := hasSettings_afterCalls (before ++ after)
  rw [settingsWrites, List.filterMap_append, ← settingsWrites, ← settingsWrites] at hafter
  refine ⟨hbefore.settingsFollow, hafter.settingsFollow, fun row hrow => ?_⟩
  have hhistory : SettingsWrite.row? (settingsWrites before) = some row := by
    have hrows : (SettingsWrite.row? (settingsWrites before)).toList = [row] :=
      Option.some.inj (hbefore.rows.symm.trans hrow)
    simpa [Option.toList_eq_singleton_iff] using hrows
  obtain ⟨row', hrow', hid, hcreated⟩ :=
    SettingsWrite.row?_append _ hhistory (settingsWrites after)
  refine ⟨row', ?_, hid, hcreated⟩
  rw [hafter.rows, hrow']
  rfl

end Store

end TagTimeline
