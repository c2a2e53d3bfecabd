import TagTimeline.Proofs.Store.Growing
import TagTimeline.Proofs.Tag.Masking
import TagTimeline.Startup.Run

/-!
# Preparing a Store

What the preparation of a store comes to, whatever store a connection reaches. Migrating leaves
every row, and the only row that is ever made is the first row of settings, in a store that has none
and can be changed. What is reported is what is stored: the setting is that of the row, and the
numbers of tags are those of the rows with a flag, whatever the setting is.

## Main results

* `Store.getOrCreateSettings_cases` — the row of settings is found, or made behind the others.
* `Startup.prepare_cases` — everything that preparing a store can come to.
-/

namespace TagTimeline

open Time

namespace Store

/-- The rows of settings, if there is a table for them. -/
def settingsRows (s : Store) : List SiteSettings := s.rowsAt .siteSettings

/-- The rows of tags, if there is a table for them. -/
def tagRows (s : Store) : List Tag := s.rowsAt .tag

/-- The site's row of settings, if it has been made. -/
def siteRow? (s : Store) : Option SiteSettings :=
  s.settingsRows.find? fun row => row.id == SiteSettings.siteId

/-- Migrations leave the rows of settings. -/
theorem Grows.settingsRows_eq {s s' : Store} (h : s.Grows s') : s'.settingsRows = s.settingsRows :=
  h.rows .siteSettings

/-- Migrations leave the site's row of settings. -/
theorem Grows.siteRow?_eq {s s' : Store} (h : s.Grows s') : s'.siteRow? = s.siteRow? :=
  congrArg (List.find? _) h.settingsRows_eq

/-- A store with the first row of settings behind the others. -/
def withFirstSettings (s : Store) (requiredTag : Bool) (now : Timestamp) : Store :=
  s.withRows (s.settingsRows ++ [SiteSettings.first requiredTag now])

section

variable {s : Store}

/-- Rows are read from a table that is there. -/
theorem rows?_eq_settingsRows (h : s.hasTable .siteSettings = true) :
    s.rows? SiteSettings = some s.settingsRows := by
  obtain ⟨table, htable⟩ := Option.isSome_iff_exists.mp ((s.hasTable_eq .siteSettings).symm.trans h)
  have hrows : s.rows? SiteSettings = (s.tableAt .siteSettings).map Table.rows := rfl
  rw [hrows, settingsRows, rowsAt, htable]
  rfl

/-- Rows are read from a table that is there. -/
theorem rows?_eq_tagRows (h : s.hasTable .tag = true) : s.rows? Tag = some s.tagRows := by
  obtain ⟨table, htable⟩ := Option.isSome_iff_exists.mp ((s.hasTable_eq .tag).symm.trans h)
  have hrows : s.rows? Tag = (s.tableAt .tag).map Table.rows := rfl
  rw [hrows, tagRows, rowsAt, htable]
  rfl

/-! ### The row of settings -/

/-- **Making the row of settings** finds the one that there is, or puts the first one behind the
others. -/
theorem getOrCreateSettings_cases (h : s.hasTable .siteSettings = true) (requiredTag : Bool)
    (now : Timestamp) :
    (∃ row, s.siteRow? = some row ∧ s.getOrCreateSettings requiredTag now = (.ok row, s)) ∨
    (s.siteRow? = none ∧ s.getOrCreateSettings requiredTag now =
      (.ok (SiteSettings.first requiredTag now), s.withFirstSettings requiredTag now)) := by
  have hrows := rows?_eq_settingsRows h
  have hfind : s.findSettings = .ok s.siteRow? := select_ok_iff.mpr ⟨_, hrows, rfl⟩
  cases hrow : s.siteRow? with
  | some row =>
      refine .inl ⟨row, rfl, ?_⟩
      rw [getOrCreateSettings, hfind, hrow]
  | none =>
      refine .inr ⟨rfl, ?_⟩
      have hinsert : Statement.insert SiteSettings.clash? (SiteSettings.first requiredTag now)
          s.settingsRows = .ok (SiteSettings.first requiredTag now,
            s.settingsRows ++ [SiteSettings.first requiredTag now]) := by
        refine Statement.insert_eq_ok_iff.mpr ⟨fun row hmem => ?_, rfl, rfl⟩
        have hid : row.id ≠ SiteSettings.siteId := by
          simpa using List.find?_eq_none.mp hrow row hmem
        rw [SiteSettings.clash?, if_neg]
        exact hid
      rw [getOrCreateSettings, hfind, hrow]
      simp only [insertSettings]
      rw [write_eq hrows, hinsert]
      rfl

/-- The first row of settings leaves the schema. -/
theorem sameSchema_withFirstSettings (s : Store) (requiredTag : Bool) (now : Timestamp) :
    s.SameSchema (s.withFirstSettings requiredTag now) :=
  StoredByName.sameSchema_withRows s _

/-- The first row of settings leaves the rows of all other tables. -/
theorem rowsAt_withFirstSettings (s : Store) {t : TableName} (ht : t ≠ .siteSettings)
    (requiredTag : Bool) (now : Timestamp) :
    (s.withFirstSettings requiredTag now).rowsAt t = s.rowsAt t := by
  cases t with
  | siteSettings => exact absurd rfl ht
  | tag | revision | activity => rfl

/-- The first row of settings is put behind the others. -/
theorem settingsRows_withFirstSettings (h : s.hasTable .siteSettings = true) (requiredTag : Bool)
    (now : Timestamp) :
    (s.withFirstSettings requiredTag now).settingsRows =
      s.settingsRows ++ [SiteSettings.first requiredTag now] := by
  have hrows := rows?_withRows (rows?_eq_settingsRows h)
    (s.settingsRows ++ [SiteSettings.first requiredTag now])
  have hhas := (s.sameSchema_withFirstSettings requiredTag now).hasTable .siteSettings
  exact Option.some.inj ((rows?_eq_settingsRows (hhas.trans h)).symm.trans hrows)

/-- The first row of settings is the site's if there has been none. -/
theorem siteRow?_withFirstSettings (h : s.hasTable .siteSettings = true)
    (hnone : s.siteRow? = none) (requiredTag : Bool) (now : Timestamp) :
    (s.withFirstSettings requiredTag now).siteRow? = some (SiteSettings.first requiredTag now) := by
  rw [siteRow?, settingsRows_withFirstSettings h, List.find?_append]
  rw [siteRow?] at hnone
  rw [hnone]
  rfl

end

end Store

namespace Connection

/-- **An operation on a store** does what it does, unless it would change a store that is only
read. -/
theorem run_cases {α : Type} {connection : Connection} {s : Store}
    (hstore : connection.store = some s) (context : String) (operation : Store → Outcome α) :
    ((connection.writable = true ∨ (operation s).2 = s) ∧
      connection.run context operation =
        ((operation s).1, { connection with store := some (operation s).2 })) ∨
    (connection.writable = false ∧ (operation s).2 ≠ s ∧
      connection.run context operation =
        (.error (Store.failed context .readOnly), connection)) := by
  rw [run, hstore]
  by_cases hcan : connection.writable = true ∨ (operation s).2 = s
  · exact .inl ⟨hcan, if_pos hcan⟩
  · refine .inr ⟨by simpa using fun h => hcan (.inl h), fun h => hcan (.inr h), if_neg hcan⟩

/-- An operation on a store leaves the file of its connection. -/
theorem file_run {α : Type} (context : String) (operation : Store → Outcome α)
    (connection : Connection) : (connection.run context operation).2.file = connection.file := by
  rw [run]
  cases connection.store with
  | none => rfl
  | some s =>
      dsimp only
      split <;> rfl

end Connection

namespace Startup

variable (connection : Connection) {s : Store}

/-- **The tags that are counted** are those that are stored with the flag, of any status and
whatever the site's setting is. -/
theorem countTags_eq (hstore : connection.store = some s) (htags : s.hasTable .tag = true) :
    countTags connection =
      ⟨.done, [.tagsReady (s.tagRows.countP Tag.recommend) (s.tagRows.countP Tag.reserved)],
        connection⟩ := by
  have hrows := Store.rows?_eq_tagRows htags
  have hlength : ∀ flag : Tag → Bool, ∀ required : Bool,
      (((s.tagRows.filter flag).mergeSort Tag.slugNotAfter).map (Tag.masked required)).length =
        s.tagRows.countP flag := by
    intro flag required
    rw [List.length_map, List.length_mergeSort, List.countP_eq_length_filter]
  simp only [countTags, Connection.read, hstore, Catalog.getRecommendTags, Catalog.getReservedTags,
    Store.recommendedTags, Store.reservedTags, Store.readTags_eq hrows, TagQuery.recommended,
    TagQuery.reserved, hlength]

/-- What is reported of the row of settings and the tags. -/
def settingsEvents (requiredTag : Bool) (tags : List Tag) : List Event :=
  [.settingsReady requiredTag,
    .tagsReady (tags.countP Tag.recommend) (tags.countP Tag.reserved)]

/-- **What preparing a store comes to**: how it ends, what is reported, and the store afterwards. -/
inductive Prepared (requiredTag : Bool) (now : Timestamp) (writable : Bool) (s : Store) :
    Ending → List Event → Store → Prop where
  /-- The migrations fail, and something is left to migrate if it was before. -/
  | unmigrated (s' : Store) (grows : s.Grows s') (holds : s'.RecordHolds)
      (left : s.pending ≠ [] → s'.pending ≠ []) :
      Prepared requiredTag now writable s .failed [.migrating] s'
  /-- Nothing is left to migrate; there is no row of settings, and none can be made. -/
  | unseeded (pending : s.pending = []) (stored : s.siteRow? = none) (reads : writable = false) :
      Prepared requiredTag now writable s .failed [.migrating, .migrated] s
  /-- There is a row of settings. -/
  | found (s' : Store) (row : SiteSettings) (grows : s.Grows s') (holds : s'.RecordHolds)
      (tables : ∀ t, s'.hasTable t = true) (stored : s.siteRow? = some row) :
      Prepared requiredTag now writable s .done
        (.migrating :: .migrated :: settingsEvents row.requiredTag s.tagRows) s'
  /-- The row of settings is made. -/
  | made (s' : Store) (grows : s.Grows s') (holds : s'.RecordHolds)
      (tables : ∀ t, s'.hasTable t = true) (stored : s.siteRow? = none) :
      Prepared requiredTag now writable s .done
        (.migrating :: .migrated :: settingsEvents requiredTag s.tagRows)
        (s'.withFirstSettings requiredTag now)

/-- Counting tags leaves the connection. -/
theorem connection_countTags : (countTags connection).connection = connection := by
  rw [countTags]
  split
  · rfl
  · split <;> rfl

/-- Making the row of settings leaves the file of the connection. -/
theorem file_prepareSettings (requiredTag : Bool) (now : Timestamp) :
    (prepareSettings requiredTag now connection).connection.file = connection.file := by
  have hfile := connection.file_run "site settings" (Store.getOrCreateSettings requiredTag now)
  rw [prepareSettings]
  split
  · next heq => simpa [heq] using hfile
  · next heq => simpa [heq, connection_countTags] using hfile

/-- Preparing a store leaves the file of the connection. -/
theorem file_prepare (requiredTag : Bool) (now : Timestamp) :
    (prepare requiredTag now connection).connection.file = connection.file := by
  have hfile := connection.file_run Store.migrateContext Store.migrate
  rw [prepare]
  split
  · next heq => simpa [heq] using hfile
  · next heq => simpa [heq, file_prepareSettings] using hfile

/-- Without a store there is nothing to prepare. -/
theorem prepare_of_none (h : connection.store = none) (requiredTag : Bool) (now : Timestamp) :
    prepare requiredTag now connection = ⟨.failed, [.migrating], connection⟩ := by
  rw [prepare, Connection.run, h]

/-- **With all tables there**, the row of settings is found, or made, or cannot be made. -/
theorem prepareSettings_cases (hstore : connection.store = some s)
    (htables : ∀ t, s.hasTable t = true) (requiredTag : Bool) (now : Timestamp) :
    (∃ row, s.siteRow? = some row ∧ prepareSettings requiredTag now connection =
      ⟨.done, settingsEvents row.requiredTag s.tagRows, connection⟩) ∨
    (s.siteRow? = none ∧ prepareSettings requiredTag now connection =
      ⟨.done, settingsEvents requiredTag s.tagRows,
        { connection with store := some (s.withFirstSettings requiredTag now) }⟩) ∨
    (s.siteRow? = none ∧ connection.writable = false ∧
      prepareSettings requiredTag now connection = ⟨.failed, [], connection⟩) := by
  rw [prepareSettings]
  rcases connection.run_cases hstore "site settings" (Store.getOrCreateSettings requiredTag now)
    with ⟨-, hrun⟩ | ⟨hreads, hchange, hrun⟩
  · rcases Store.getOrCreateSettings_cases (htables .siteSettings) requiredTag now with
      ⟨row, hrow, hcreate⟩ | ⟨hnone, hcreate⟩
    · have hsame : ({ connection with store := some s } : Connection) = connection := by
        rw [← hstore]
      rw [hrun, hcreate]
      simp only [hsame, countTags_eq connection hstore (htables .tag)]
      exact .inl ⟨row, hrow, rfl⟩
    · have hhas := (s.sameSchema_withFirstSettings requiredTag now).hasTable .tag
      have htags : (s.withFirstSettings requiredTag now).tagRows = s.tagRows :=
        s.rowsAt_withFirstSettings (by decide : TableName.tag ≠ .siteSettings) requiredTag now
      rw [hrun, hcreate]
      simp only [countTags_eq { connection with store := some _ } rfl (hhas.trans (htables .tag)),
        htags]
      exact .inr (.inl ⟨hnone, rfl⟩)
  · rcases Store.getOrCreateSettings_cases (htables .siteSettings) requiredTag now with
      ⟨row, hrow, hcreate⟩ | ⟨hnone, hcreate⟩
    · rw [hcreate] at hchange
      exact absurd rfl hchange
    · rw [hrun]
      exact .inr (.inr ⟨hnone, hreads, rfl⟩)

/-- **Everything that preparing a store can come to.** -/
theorem prepare_cases (hstore : connection.store = some s) (hrecord : s.RecordHolds)
    (requiredTag : Bool) (now : Timestamp) :
    ∃ s', (prepare requiredTag now connection).connection = { connection with store := some s' } ∧
      Prepared requiredTag now connection.writable s (prepare requiredTag now connection).ending
        (prepare requiredTag now connection).events s' := by
  have hself : ({ connection with store := some s } : Connection) = connection := by rw [← hstore]
  rw [prepare]
  rcases connection.run_cases hstore Store.migrateContext Store.migrate with
    ⟨hcan, hrun⟩ | ⟨-, -, hrun⟩
  · have hgrows := s.grows_migrate
    have hholds := hrecord.migrate
    rw [hrun]
    rcases hmigrate : s.migrate with ⟨e | _, s₁⟩
    · have hleft : s₁.pending ≠ [] := by
        intro hnone
        have hok := Store.migrate_eq_ok_iff (s := s)
        rw [hmigrate] at hok
        cases hok.mpr hnone
      rw [hmigrate] at hgrows hholds
      exact ⟨s₁, rfl, .unmigrated s₁ hgrows hholds fun _ => hleft⟩
    · have htables := hrecord.hasTable_of_migrate hmigrate
      rw [hmigrate] at hgrows hholds hcan
      have htags : s₁.tagRows = s.tagRows := hgrows.rows .tag
      rcases prepareSettings_cases { connection with store := some s₁ } rfl htables requiredTag now
        with ⟨row, hrow, hprepare⟩ | ⟨hnone, hprepare⟩ | ⟨hnone, hreads, hprepare⟩
      · simp only [hprepare]
        rw [hgrows.siteRow?_eq] at hrow
        exact ⟨s₁, rfl, htags ▸ .found s₁ row hgrows hholds htables hrow⟩
      · simp only [hprepare]
        rw [hgrows.siteRow?_eq] at hnone
        exact ⟨_, rfl, htags ▸ .made s₁ hgrows hholds htables hnone⟩
      · simp only [hprepare]
        -- what can only be read has not been changed by the migrations
        obtain rfl : s₁ = s := hcan.resolve_left (by rw [hreads]; exact Bool.false_ne_true)
        exact ⟨s₁, rfl, .unseeded (Store.pending_eq_nil_iff.mpr hmigrate) hnone hreads⟩
  · rw [hrun]
    exact ⟨s, hself.symm, .unmigrated s (.refl s) hrecord id⟩

end Startup

end TagTimeline
