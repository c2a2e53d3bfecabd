import TagTimeline.Proofs.Startup.Preparation

/-!
# What a Run Does to a Database

One run of the program, and what it does to the store in one of the files of its directory. A run
ends early, or prepares the store of the connection that it opens; other files it leaves. A run that
fails leaves every row. One that succeeds leaves every row too, and has at most put the first row of
settings behind the others.

## Main results

* `Startup.run_cases` — a run ends early, or prepares the store of its connection.
* `Startup.affected` — everything that a run can do to the store in a file.
* `Startup.Affected.of_done`, `Startup.Affected.of_passes` — what a run reports and stores.
-/

namespace TagTimeline

open Time

namespace FileContent

/-- The store in a file; an empty one if it holds a text. -/
def store : FileContent → Store
  | .database s => s
  | .text _ => .empty

end FileContent

namespace Directory

variable {directory opened : Directory} {connection : Connection}

/-- **The store in the file with a path**; an empty one if there is no database. -/
def storeAt (directory : Directory) (path : Path) : Store :=
  ((directory.get? path).map FileContent.store).getD .empty

/-- A file that is written holds its store, and no other one has changed. -/
theorem storeAt_set (directory : Directory) (written path : Path) (content : FileContent) :
    (directory.set written content).storeAt path =
      if path = written then content.store else directory.storeAt path := by
  rw [storeAt, get?_set]
  split <;> rfl

/-- A connection to a file reaches the store that the file holds, if it reaches one. -/
theorem openFile_eq_opened {path : Path} {content : FileContent} {writable : Bool}
    (h : directory.openFile path content writable = .opened connection opened) :
    opened = directory ∧ connection.file = some path ∧
      ∀ s, connection.store = some s → s = content.store := by
  cases content with
  | database s =>
      obtain ⟨rfl, rfl⟩ := Opening.opened.inj h
      exact ⟨rfl, rfl, fun s' hs' => (Option.some.inj hs').symm⟩
  | text text =>
      obtain ⟨rfl, rfl⟩ := Opening.opened.inj h
      refine ⟨rfl, rfl, fun s hs => ?_⟩
      simp only at hs
      split at hs
      · exact (Option.some.inj hs).symm
      · cases hs

/-- Opening a database in a file, which may be made for it, changes no store. -/
theorem connectFile_eq_opened {name : String} {creates writable : Bool}
    (h : directory.connectFile name creates writable = .opened connection opened) :
    (∀ path, opened.storeAt path = directory.storeAt path) ∧
      ∀ path s, connection.file = some path → connection.store = some s →
        s = directory.storeAt path := by
  rw [connectFile] at h
  cases hplace : directory.place? name with
  | none =>
      rw [hplace] at h
      cases h
  | some place =>
      simp only [hplace] at h
      cases hcontent : directory.get? place with
      | some content =>
          rw [hcontent] at h
          obtain ⟨rfl, hfile, hstore⟩ := openFile_eq_opened h
          refine ⟨fun _ => rfl, fun path s hpath hs => ?_⟩
          obtain rfl : place = path := Option.some.inj (hfile.symm.trans hpath)
          rw [hstore s hs, storeAt, hcontent]
          rfl
      | none =>
          simp only [hcontent] at h
          split at h
          · -- a file that is made holds as little as one that is not there
            have hmade : ∀ path, (directory.set place (.text "")).storeAt path =
                directory.storeAt path := by
              intro path
              rw [storeAt_set]
              split
              · next heq =>
                  rw [heq, storeAt, hcontent]
                  rfl
              · rfl
            obtain ⟨rfl, hfile, hstore⟩ := openFile_eq_opened h
            refine ⟨hmade, fun path s hpath hs => ?_⟩
            obtain rfl : place = path := Option.some.inj (hfile.symm.trans hpath)
            rw [hstore s hs, storeAt, hcontent]
            rfl
          · cases h

/-- **Opening a database** changes no store, and a connection to a file reaches the store that the
file holds, if it reaches one. -/
theorem connect_eq_opened {config : DatabaseConfig}
    (h : directory.connect config = .opened connection opened) :
    (∀ path, opened.storeAt path = directory.storeAt path) ∧
      ∀ path s, connection.file = some path → connection.store = some s →
        s = directory.storeAt path := by
  simp only [connect] at h
  split at h
  · cases h
  · split at h
    · cases h
    · split at h
      · cases h
      · exact connectFile_eq_opened h
      · -- a database in memory is in no file
        obtain ⟨rfl, rfl⟩ := Opening.opened.inj h
        refine ⟨fun _ => rfl, fun path s hpath => ?_⟩
        split at hpath <;> cases hpath

/-- **Closing a connection** stores what it reached in its file, and nothing elsewhere. -/
theorem storeAt_close (directory : Directory) (connection : Connection) (path : Path) :
    (directory.close connection).storeAt path =
      if connection.file = some path then connection.store.getD (directory.storeAt path)
      else directory.storeAt path := by
  rw [close]
  cases connection.file with
  | none => rfl
  | some file =>
      cases connection.store with
      | none => simp
      | some s =>
          rw [storeAt_set]
          by_cases hpath : path = file
          · rw [if_pos hpath, if_pos (congrArg some hpath.symm)]
            rfl
          · rw [if_neg hpath, if_neg fun h => hpath (Option.some.inj h).symm]

end Directory

namespace Startup

/-- Files that are written elsewhere leave a store. -/
theorem storeAt_withFiles {path : Path} {files : List (Path × String)}
    (h : ∀ file ∈ files, file.1 ≠ path) (directory : Directory) :
    (withFiles directory files).storeAt path = directory.storeAt path := by
  rw [withFiles]
  induction files generalizing directory with
  | nil => rfl
  | cons file more ih =>
      rw [List.foldl_cons, ih fun other hother => h other (List.mem_cons_of_mem _ hother),
        Directory.storeAt_set, if_neg (h file List.mem_cons_self).symm]

/-! ### One run -/

/-- An event from before the migrations. -/
def isOpening : Event → Bool
  | .environmentFileUnread | .starting | .connected _ => true
  | _ => false

/-- From the configuration on, a run ends early or prepares the store of its connection. -/
theorem proceed_cases (now : Timestamp) (env : Environment) (directory : Directory) :
    (∃ ending, proceed now env directory = ((ending, []), directory) ∧ ending ≠ .done) ∨
    ∃ config connection opened, Config.load directory.read? env = .ok config ∧
      directory.connect config.database = .opened connection opened ∧
      proceed now env directory =
        (((prepare config.requiredTag now connection).ending,
            .connected config.database.maxConnections ::
              (prepare config.requiredTag now connection).events),
          opened.close (prepare config.requiredTag now connection).connection) := by
  rw [proceed]
  cases hload : Config.load directory.read? env with
  | error e =>
      left
      cases e with
      | noPosition => exact ⟨.aborted, rfl, nofun⟩
      | _ => exact ⟨.failed, rfl, nofun⟩
  | ok config =>
      dsimp only
      cases hconnect : directory.connect config.database with
      | refused e => exact .inl ⟨.failed, rfl, nofun⟩
      | aborted => exact .inl ⟨.aborted, rfl, nofun⟩
      | opened connection opened => exact .inr ⟨config, connection, opened, rfl, hconnect, rfl⟩

/-- **A run ends early**, or prepares the store of the connection that it opens. -/
theorem run_cases (now : Timestamp) (env : Environment) (directory : Directory) :
    (∃ report, run now env directory = (report, directory) ∧ report.ending ≠ .done ∧
      report.events.all isOpening) ∨
    ∃ config connection opened opening filter,
      Config.load directory.read? (variablesOf directory env).1 = .ok config ∧
      directory.connect config.database = .opened connection opened ∧
      opening.all isOpening ∧
      run now env directory =
        (⟨(prepare config.requiredTag now connection).ending,
            opening ++ (prepare config.requiredTag now connection).events, filter⟩,
          opened.close (prepare config.requiredTag now connection).connection) := by
  have hsilent : silentReport.ending ≠ .done ∧ silentReport.events.all isOpening :=
    ⟨nofun, rfl⟩
  rw [run]
  rcases variablesOf directory env with ⟨env, completion⟩
  simp only
  split
  · exact .inl ⟨_, rfl, hsilent⟩
  · exact .inl ⟨_, rfl, hsilent⟩
  · next filter _ _ =>
      have hopening : ∀ p : Prop, ∀ _ : Decidable p,
          (if p then [Event.starting] else [.environmentFileUnread, .starting]).all isOpening := by
        intro p _
        split <;> rfl
      rcases proceed_cases now env directory with
        ⟨ending, hproceed, hending⟩ | ⟨config, connection, opened, hload, hconnect, hproceed⟩
      · simp only [hproceed]
        exact .inl ⟨_, rfl, hending, by simpa using hopening _ _⟩
      · simp only [hproceed]
        refine .inr ⟨config, connection, opened, _ ++ [.connected config.database.maxConnections],
          filter, hload, hconnect, ?_, by rw [List.append_assoc]; rfl⟩
        rw [List.all_append, hopening]
        rfl

/-! ### What a run does to the store in a file -/

/-- **A run as it happened**: how it was started, the directory with the files that were written
before, what the run has reported, and the directory after it. -/
structure Occurrence where
  launch : Launch
  before : Directory
  report : Report
  after : Directory

namespace Occurrence

/-- The configuration of a run. -/
def configuration (o : Occurrence) : Except ConfigError Config :=
  Config.load o.before.read? (variablesOf o.before o.launch.env).1

/-- The connection that a run opens. -/
def connection? (o : Occurrence) : Option Connection :=
  match o.configuration with
  | .error _ => none
  | .ok config =>
      match o.before.connect config.database with
      | .opened connection _ => some connection
      | .refused _ | .aborted => none

/-- That a run works on the database in a file. -/
def Reaches (o : Occurrence) (path : Path) : Prop :=
  ∃ connection, o.connection? = some connection ∧ connection.file = some path

/-- That a run can change what it works on. -/
def CanWrite (o : Occurrence) : Prop :=
  ∃ connection, o.connection? = some connection ∧ connection.writable = true

/-- That a run gets past the migrations of the database in a file. -/
def Passes (o : Occurrence) (path : Path) : Prop := o.Reaches path ∧ .migrated ∈ o.report.events

end Occurrence

/-- **What a run does to the store in a file.** -/
inductive Affected (o : Occurrence) (path : Path) (s : Store) : Store → Prop where
  /-- The run works elsewhere. -/
  | elsewhere (apart : ¬ o.Reaches path) : Affected o path s s
  /-- It ends before there is anything to prepare. -/
  | unprepared (ending : o.report.ending ≠ .done)
      (early : ∀ event ∈ o.report.events, isOpening event ∨ event = .migrating) :
      Affected o path s s
  /-- It prepares the store. -/
  | prepared {config : Config} {connection : Connection} {opening events : List Event}
      {ending : Ending} {s' : Store} (loaded : o.configuration = .ok config)
      (opened : o.connection? = some connection) (file : connection.file = some path)
      (early : opening.all isOpening) (reported : o.report.events = opening ++ events)
      (ended : o.report.ending = ending)
      (prepared : Prepared config.requiredTag o.launch.now connection.writable s ending events s') :
      Affected o path s s'

/-- **Everything that a run can do to the store in a file.** -/
theorem affected (o : Occurrence) {path : Path}
    (hrun : run o.launch.now o.launch.env o.before = (o.report, o.after))
    (hrecord : (o.before.storeAt path).RecordHolds) :
    Affected o path (o.before.storeAt path) (o.after.storeAt path) := by
  rcases run_cases o.launch.now o.launch.env o.before with
    ⟨report, hearly, hending, hevents⟩ |
    ⟨config, connection, opened, opening, filter, hload, hconnect, hopening, hprepare⟩
  · obtain ⟨rfl, hafter⟩ := Prod.mk.inj (hrun.symm.trans hearly)
    rw [hafter]
    exact .unprepared hending fun event hevent => .inl (List.all_eq_true.mp hevents event hevent)
  · obtain ⟨hreport, hafter⟩ := Prod.mk.inj (hrun.symm.trans hprepare)
    have hconnection : o.connection? = some connection := by
      rw [Occurrence.connection?, show o.configuration = .ok config from hload]
      simp only [hconnect]
    obtain ⟨hkept, hreached⟩ := Directory.connect_eq_opened hconnect
    rw [hafter, Directory.storeAt_close, file_prepare]
    by_cases hfile : connection.file = some path
    · rw [if_pos hfile]
      cases hstore : connection.store with
      | none =>
          rw [prepare_of_none connection hstore] at hreport ⊢
          rw [hstore, Option.getD_none, hkept]
          refine .unprepared (by rw [hreport]; exact nofun) fun event hevent => ?_
          rw [hreport, List.mem_append, List.mem_singleton] at hevent
          exact hevent.imp (List.all_eq_true.mp hopening event) id
      | some s =>
          obtain rfl := hreached path s hfile hstore
          obtain ⟨s', hs', hprepared⟩ :=
            prepare_cases connection hstore hrecord config.requiredTag o.launch.now
          rw [hs', Option.getD_some]
          exact .prepared hload hconnection hfile hopening (by rw [hreport]) (by rw [hreport])
            hprepared
    · rw [if_neg hfile, hkept]
      refine .elsewhere fun ⟨other, hother, hpath⟩ => hfile ?_
      rw [hconnection] at hother
      rw [Option.some.inj hother, hpath]

/-- An event that is not from before the migrations is among those behind. -/
theorem mem_append_of_early {opening events : List Event} {event : Event}
    (hopening : opening.all isOpening = true) (hevent : isOpening event = false) :
    event ∈ opening ++ events ↔ event ∈ events := by
  rw [List.mem_append]
  refine or_iff_right fun hmem => ?_
  rw [List.all_eq_true.mp hopening event hmem] at hevent
  cases hevent

namespace Affected

variable {o : Occurrence} {path : Path} {s s' : Store}

/-- No run changes a row of another table than that of the settings. -/
theorem rowsAt (h : Affected o path s s') {t : TableName} (ht : t ≠ .siteSettings) :
    s'.rowsAt t = s.rowsAt t := by
  cases h with
  | elsewhere | unprepared => rfl
  | prepared _ _ _ _ _ _ hprepared =>
      cases hprepared with
      | unseeded => rfl
      | unmigrated s' grows | found s' _ grows => exact grows.rows t
      | made s' grows => exact (s'.rowsAt_withFirstSettings ht _ _).trans (grows.rows t)

/-- No run changes a row of settings that there is. -/
theorem settingsRows (h : Affected o path s s') : s.settingsRows <+: s'.settingsRows := by
  cases h with
  | elsewhere | unprepared => exact List.prefix_rfl
  | prepared _ _ _ _ _ _ hprepared =>
      cases hprepared with
      | unseeded => exact List.prefix_rfl
      | unmigrated s' grows | found s' _ grows =>
          exact ⟨[], (List.append_nil _).trans grows.settingsRows_eq.symm⟩
      | made s' grows _ tables =>
          rw [Store.settingsRows_withFirstSettings (tables .siteSettings), grows.settingsRows_eq]
          exact List.prefix_append _ _

/-- A run that fails leaves every row. -/
theorem rowsAt_of_ne_done (h : Affected o path s s') (hending : o.report.ending ≠ .done)
    (t : TableName) : s'.rowsAt t = s.rowsAt t := by
  cases h with
  | elsewhere | unprepared => rfl
  | prepared _ _ _ _ _ ended hprepared =>
      rw [ended] at hending
      cases hprepared with
      | unseeded => rfl
      | unmigrated s' grows => exact grows.rows t
      | found | made => exact absurd rfl hending

/-- Recorded migrations keep their tables. -/
theorem recordHolds (h : Affected o path s s') (hrecord : s.RecordHolds) : s'.RecordHolds := by
  cases h with
  | elsewhere | unprepared => exact hrecord
  | prepared _ _ _ _ _ _ hprepared =>
      cases hprepared with
      | unseeded => exact hrecord
      | unmigrated s' _ holds | found s' _ _ holds => exact holds
      | made s' _ holds => exact holds.of_sameSchema (s'.sameSchema_withFirstSettings _ _)

/-- A run that succeeds leaves all tables, and reports the tags that are stored with the flags. -/
theorem of_done (h : Affected o path s s') (hreaches : o.Reaches path)
    (hending : o.report.ending = .done) :
    (∀ t, s'.hasTable t = true) ∧ ∀ m n, .tagsReady m n ∈ o.report.events ↔
      m = s'.tagRows.countP Tag.recommend ∧ n = s'.tagRows.countP Tag.reserved := by
  have htags : s'.tagRows = s.tagRows := h.rowsAt (by decide : TableName.tag ≠ .siteSettings)
  rw [htags]
  cases h with
  | elsewhere apart => exact absurd hreaches apart
  | unprepared ending => exact absurd hending ending
  | prepared _ _ _ early reported ended hprepared =>
      have hcounts : ∀ b m n, Event.tagsReady m n ∈
          Event.migrating :: .migrated :: settingsEvents b s.tagRows ↔
            m = s.tagRows.countP Tag.recommend ∧ n = s.tagRows.countP Tag.reserved := by
        intro b m n
        simp [settingsEvents]
      simp only [reported, mem_append_of_early early (rfl : isOpening (.tagsReady _ _) = false)]
      rw [ended] at hending
      cases hprepared with
      | unseeded | unmigrated => cases hending
      | found s' row _ _ tables => exact ⟨tables, hcounts row.requiredTag⟩
      | made s' _ _ tables =>
          refine ⟨fun t => ?_, hcounts _⟩
          rw [(s'.sameSchema_withFirstSettings _ _).hasTable t]
          exact tables t

/-- The site's row of settings stays, and the setting that a run reports is that of the row. -/
theorem of_siteRow?_eq_some (h : Affected o path s s') {row : SiteSettings}
    (hrow : s.siteRow? = some row) :
    s'.siteRow? = some row ∧
      (o.Reaches path → ∀ b, .settingsReady b ∈ o.report.events → b = row.requiredTag) := by
  cases h with
  | elsewhere apart => exact ⟨hrow, fun hreaches => absurd hreaches apart⟩
  | unprepared _ early =>
      refine ⟨hrow, fun _ b hb => ?_⟩
      rcases early _ hb with hopening | hmigrating
      · cases hopening
      · cases hmigrating
  | prepared _ _ _ early reported _ hprepared =>
      simp only [reported, mem_append_of_early early (rfl : isOpening (.settingsReady _) = false)]
      cases hprepared with
      | unseeded _ stored | made _ _ _ _ stored =>
          rw [hrow] at stored
          cases stored
      | unmigrated s' grows => exact ⟨grows.siteRow?_eq.trans hrow, by simp⟩
      | found s' row' grows _ _ stored =>
          obtain rfl : row' = row := Option.some.inj (stored.symm.trans hrow)
          exact ⟨grows.siteRow?_eq.trans hrow, by simp [settingsEvents]⟩

/-- A run that does not get past the migrations makes no row of settings and leaves something to
migrate. -/
theorem of_not_passes (h : Affected o path s s') (hpasses : ¬ o.Passes path) :
    s'.siteRow? = s.siteRow? ∧ (s.pending ≠ [] → s'.pending ≠ []) := by
  cases h with
  | elsewhere | unprepared => exact ⟨rfl, id⟩
  | prepared _ opened file early reported _ hprepared =>
      have hmigrated : .migrated ∉ o.report.events := fun hmem =>
        hpasses ⟨⟨_, opened, file⟩, hmem⟩
      rw [reported, mem_append_of_early early rfl] at hmigrated
      cases hprepared with
      | unmigrated s' grows _ left => exact ⟨grows.siteRow?_eq, left⟩
      | unseeded | found | made => simp at hmigrated

/-- The first run past the migrations makes the row of settings with its own setting and reports
it. -/
theorem of_passes (h : Affected o path s s') (hpasses : o.Passes path)
    (hnone : s.siteRow? = none) (hcan : s.pending ≠ [] ∨ o.CanWrite) :
    ∃ config, o.configuration = .ok config ∧
      s'.settingsRows = s.settingsRows ++ [SiteSettings.first config.requiredTag o.launch.now] ∧
      s'.siteRow? = some (SiteSettings.first config.requiredTag o.launch.now) ∧
      .settingsReady config.requiredTag ∈ o.report.events := by
  obtain ⟨hreaches, hmigrated⟩ := hpasses
  cases h with
  | elsewhere apart => exact absurd hreaches apart
  | unprepared _ early =>
      rcases early _ hmigrated with hopening | hmigrating
      · cases hopening
      · cases hmigrating
  | prepared loaded opened _ early reported _ hprepared =>
      refine ⟨_, loaded, ?_⟩
      rw [reported, mem_append_of_early early rfl] at hmigrated ⊢
      cases hprepared with
      | unmigrated => simp at hmigrated
      | found s' row _ _ _ stored =>
          rw [hnone] at stored
          cases stored
      | unseeded pending _ reads =>
          rcases hcan with hleft | ⟨other, hother, hwritable⟩
          · exact absurd pending hleft
          · rw [opened] at hother
            rw [Option.some.inj hother, hwritable] at reads
            cases reads
      | made s' grows _ tables =>
          have hnone' : s'.siteRow? = none := grows.siteRow?_eq.trans hnone
          refine ⟨?_, Store.siteRow?_withFirstSettings (tables .siteSettings) hnone' _ _, ?_⟩
          · rw [Store.settingsRows_withFirstSettings (tables .siteSettings), grows.settingsRows_eq]
          · simp [settingsEvents]

end Affected

end Startup

end TagTimeline
