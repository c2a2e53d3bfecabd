import Mathlib
import TagTimeline.Proofs.Startup.Occurrence

/-!
# Restarting

Any number of runs of the program in one directory, each with its own variables and with whatever
files are written before it, and the database in one of the files. The setting is stored once, by
the first run that gets past the migrations, and is what all later runs report; nothing else is
stored, and nothing is lost.

## Main results

* `Startup.runAll_eq` — runs report, and leave the directory, as they happen.
* `Startup.isSafe_history` — what holds of all runs, one after the other.
-/

namespace TagTimeline

open Time

namespace Startup

/-- A run in a directory, as it happens. -/
def occurrence (launch : Launch) (directory : Directory) : Occurrence :=
  let before := withFiles directory launch.files
  ⟨launch, before, (run launch.now launch.env before).1, (run launch.now launch.env before).2⟩

/-- **Runs as they happen**, one after the other. -/
def history : List Launch → Directory → List Occurrence
  | [], _ => []
  | launch :: more, directory =>
      occurrence launch directory :: history more (occurrence launch directory).after

/-- Runs report, and leave the directory, as they happen. -/
theorem runAll_eq (launches : List Launch) (directory : Directory) :
    runAll launches directory =
      ((history launches directory).map Occurrence.report,
        ((history launches directory).getLast?.map Occurrence.after).getD directory) := by
  induction launches generalizing directory with
  | nil => rfl
  | cons launch more ih =>
      simp only [runAll, history, occurrence, ih, List.map_cons, List.getLast?_cons]
      cases (history more
        (run launch.now launch.env (withFiles directory launch.files)).2).getLast? <;> rfl

/-- **That the first run past the migrations decides on the setting**: it makes the row of settings
with its own setting and reports it, and all later runs on the database report the same. -/
def Decides (path : Path) (run : Occurrence) (later : List Occurrence) : Prop :=
  ∃ config, run.configuration = .ok config ∧
    (run.after.storeAt path).settingsRows =
      (run.before.storeAt path).settingsRows ++
        [SiteSettings.first config.requiredTag run.launch.now] ∧
    .settingsReady config.requiredTag ∈ run.report.events ∧
    ∀ run' ∈ later, run'.Reaches path →
      ∀ b, .settingsReady b ∈ run'.report.events → b = config.requiredTag

/-- **What holds of all runs** for the database in a file, which has held a store before them. -/
structure IsSafe (path : Path) (s : Store) (runs : List Occurrence) : Prop where
  /-- The first run finds the store as it was, -/
  start : ∀ run ∈ runs.head?, run.before.storeAt path = s
  /-- and each further run as the one before has left it. -/
  next : runs.IsChain fun run run' => run'.before.storeAt path = run.after.storeAt path
  /-- No run changes a tag, a revision or an activity. -/
  rows : ∀ run ∈ runs, ∀ t, t ≠ .siteSettings →
    (run.before.storeAt path).rowsAt t = s.rowsAt t ∧
      (run.after.storeAt path).rowsAt t = s.rowsAt t
  /-- No run changes a row of settings that there is. -/
  settings : ∀ run ∈ runs, s.settingsRows <+: (run.before.storeAt path).settingsRows ∧
    (run.before.storeAt path).settingsRows <+: (run.after.storeAt path).settingsRows
  /-- A run that fails leaves every row. -/
  failed : ∀ run ∈ runs, run.report.ending.exitCode ≠ 0 → ∀ t,
    (run.after.storeAt path).rowsAt t = (run.before.storeAt path).rowsAt t
  /-- A run that succeeds leaves all tables, and reports how many tags are stored with the flags. -/
  done : ∀ run ∈ runs, run.Reaches path → run.report.ending.exitCode = 0 →
    (∀ t, (run.after.storeAt path).hasTable t = true) ∧
    ∀ m n, .tagsReady m n ∈ run.report.events ↔
      m = (run.after.storeAt path).tagRows.countP Tag.recommend ∧
      n = (run.after.storeAt path).tagRows.countP Tag.reserved
  /-- The setting that was there is reported by all runs. -/
  found : ∀ row, s.siteRow? = some row → ∀ run ∈ runs, run.Reaches path →
    ∀ b, .settingsReady b ∈ run.report.events → b = row.requiredTag
  /-- If there was none, the first run past the migrations decides on it. It can do so in a database
  with something left to migrate, as a new one; in one prepared elsewhere it has to be let write. -/
  first : s.siteRow? = none → ∀ earlier run later, runs = earlier ++ run :: later →
    run.Passes path → (∀ run' ∈ earlier, ¬ run'.Passes path) → s.pending ≠ [] ∨ run.CanWrite →
      Decides path run later

/-- Everything holds of no run. -/
theorem IsSafe.nil (path : Path) (s : Store) : IsSafe path s [] where
  start _ h := absurd h nofun
  next := .nil
  rows _ h := absurd h List.not_mem_nil
  settings _ h := absurd h List.not_mem_nil
  failed _ h := absurd h List.not_mem_nil
  done _ h := absurd h List.not_mem_nil
  found _ _ _ h := absurd h List.not_mem_nil
  first _ _ _ _ h := absurd h (by simp)

/-- **One run more in front** of runs of which everything holds. -/
theorem IsSafe.cons {o : Occurrence} {path : Path} {s s' : Store} {more : List Occurrence}
    (hbefore : o.before.storeAt path = s) (hafter : o.after.storeAt path = s')
    (haffected : Affected o path s s') (hmore : IsSafe path s' more) :
    IsSafe path s (o :: more) := by
  subst hbefore hafter
  refine ⟨?_, List.isChain_cons.mpr ⟨hmore.start, hmore.next⟩, ?_, ?_, ?_, ?_, ?_, ?_⟩
  · rintro run ⟨⟩
    rfl
  · intro run hrun t ht
    rcases List.mem_cons.mp hrun with rfl | hlater
    · exact ⟨rfl, haffected.rowsAt ht⟩
    · obtain ⟨hrows, hrows'⟩ := hmore.rows run hlater t ht
      exact ⟨hrows.trans (haffected.rowsAt ht), hrows'.trans (haffected.rowsAt ht)⟩
  · intro run hrun
    rcases List.mem_cons.mp hrun with rfl | hlater
    · exact ⟨List.prefix_rfl, haffected.settingsRows⟩
    · obtain ⟨hrows, hrows'⟩ := hmore.settings run hlater
      exact ⟨haffected.settingsRows.trans hrows, hrows'⟩
  · intro run hrun hending
    rcases List.mem_cons.mp hrun with rfl | hlater
    · exact haffected.rowsAt_of_ne_done fun hdone => hending (by rw [hdone]; rfl)
    · exact hmore.failed run hlater hending
  · intro run hrun hreaches hending
    rcases List.mem_cons.mp hrun with rfl | hlater
    · refine haffected.of_done hreaches ?_
      cases hdone : run.report.ending with
      | done => rfl
      | failed | aborted => rw [hdone] at hending; cases hending
    · exact hmore.done run hlater hreaches hending
  · intro row hrow run hrun hreaches
    obtain ⟨hkept, hreported⟩ := haffected.of_siteRow?_eq_some hrow
    rcases List.mem_cons.mp hrun with rfl | hlater
    · exact hreported hreaches
    · exact hmore.found row hkept run hlater hreaches
  · intro hnone earlier run later hruns hpasses hearlier hcan
    cases earlier with
    | nil =>
        obtain ⟨rfl, rfl⟩ := List.cons.inj hruns
        obtain ⟨config, hconfig, hrows, hrow, hevent⟩ := haffected.of_passes hpasses hnone hcan
        exact ⟨config, hconfig, hrows, hevent, hmore.found _ hrow⟩
    | cons run' rest =>
        obtain ⟨rfl, rfl⟩ := List.cons.inj hruns
        obtain ⟨hkept, hleft⟩ := haffected.of_not_passes (hearlier o List.mem_cons_self)
        exact hmore.first (hkept.trans hnone) rest run later rfl hpasses
          (fun run' hrun' => hearlier run' (List.mem_cons_of_mem _ hrun')) (hcan.imp_left hleft)

/-- Everything holds of the runs as they happen. -/
theorem IsSafe.history {path : Path} {launches : List Launch}
    (hfiles : ∀ launch ∈ launches, ∀ file ∈ launch.files, file.1 ≠ path) {directory : Directory}
    (hrecord : (directory.storeAt path).RecordHolds) :
    IsSafe path (directory.storeAt path) (history launches directory) := by
  induction launches generalizing directory with
  | nil => exact .nil path _
  | cons launch more ih =>
      have hwritten : (occurrence launch directory).before.storeAt path = directory.storeAt path :=
        storeAt_withFiles (hfiles launch List.mem_cons_self) directory
      rw [← hwritten] at hrecord ⊢
      have haffected := affected (occurrence launch directory) rfl hrecord
      exact .cons rfl rfl haffected
        (ih (fun launch' hlaunch' => hfiles launch' (List.mem_cons_of_mem _ hlaunch'))
          (haffected.recordHolds hrecord))

/-- **Restarting is safe.** Any number of runs in one directory, with any variables and any files
written in between except the database itself, report and leave the directory as they happen one
after the other, and change no tag, no revision, no activity and no row of settings that there is; a
run that fails leaves all rows. A run that succeeds leaves all tables, and reports how many of the
stored tags have the flags, whatever their status and the setting. The first run that gets past the
migrations stores its own setting, if there was none, and all later runs report it.

It is assumed that no run has its database under an absolute path. Such a run is taken to be refused
here, while the program opens the database, which may be the very one that the runs share. -/
theorem isSafe_history {path : Path} {launches : List Launch}
    (hfiles : ∀ launch ∈ launches, ∀ file ∈ launch.files, file.1 ≠ path) {directory : Directory}
    (hrecord : (directory.storeAt path).RecordHolds) :
    runAll launches directory =
        ((history launches directory).map Occurrence.report,
          ((history launches directory).getLast?.map Occurrence.after).getD directory) ∧
      IsSafe path (directory.storeAt path) (history launches directory) :=
  ⟨runAll_eq launches directory, .history hfiles hrecord⟩

/-- In a directory without files nothing is read. -/
theorem read?_empty : Directory.empty.read? = fun _ => none := by
  funext name
  rw [Directory.read?]
  split
  · rfl
  · cases Directory.empty.follow? [] (Path.parts name) <;> rfl

/-- Variables with the address of the database and the setting. -/
def variablesWith (url requiredTag : String) : Environment :=
  [("QANDA__DATABASE__URL", url), ("QANDA__SITE__REQUIRED_TAG", requiredTag)]

/-- A run with a database in a file and the setting on. -/
def firstLaunch : Launch := ⟨[], .epoch, variablesWith "sqlite:q.db?mode=rwc" "true"⟩

/-- A run on the same database with the setting off. -/
def secondLaunch : Launch := ⟨[], .epoch, variablesWith "sqlite:q.db" "false"⟩

/-- The first of these runs makes the database and gets past the migrations, and the second one has
another setting. -/
theorem isSafe_history_twice :
    (∀ launch ∈ [firstLaunch, secondLaunch], ∀ file ∈ launch.files, file.1 ≠ ["q.db"]) ∧
      (Directory.empty.storeAt ["q.db"]).RecordHolds ∧
      (runAll [firstLaunch, secondLaunch] .empty).1 =
        (history [firstLaunch, secondLaunch] .empty).map Occurrence.report ∧
      IsSafe ["q.db"] (Directory.empty.storeAt ["q.db"])
        (history [firstLaunch, secondLaunch] .empty) ∧
      ∃ run ∈ (history [firstLaunch, secondLaunch] .empty).head?,
        run.Passes ["q.db"] ∧ run.report.ending = .done := by
  have hfiles : ∀ launch ∈ [firstLaunch, secondLaunch], ∀ file ∈ launch.files,
      file.1 ≠ ["q.db"] := by
    simp [firstLaunch, secondLaunch]
  have hrecord : (Directory.empty.storeAt ["q.db"]).RecordHolds := fun _ h =>
    absurd h List.not_mem_nil
  obtain ⟨hruns, hsafe⟩ := isSafe_history hfiles hrecord
  refine ⟨hfiles, hrecord, congrArg Prod.fst hruns, hsafe, ?_⟩
  have hvariables : variablesOf .empty firstLaunch.env = (firstLaunch.env, .complete) := by
    rw [variablesOf, read?_empty]
  have hfilter : LogFilter.ofEnvironment? firstLaunch.env = some .standard := by cbv
  have hload : Config.load Directory.empty.read? firstLaunch.env =
      .ok ⟨⟨"sqlite:q.db?mode=rwc", 100, 5⟩, true⟩ := by
    rw [read?_empty]
    cbv
  have hconnect : Directory.empty.connect ⟨"sqlite:q.db?mode=rwc", 100, 5⟩ =
      .opened ⟨some ["q.db"], some .empty, true⟩ (Directory.empty.set ["q.db"] (.text "")) := by
    cbv
  have hmigrate : Store.empty.migrate = (.ok (), .fresh) := rfl
  have hsettings : Store.fresh.getOrCreateSettings true firstLaunch.now =
      (.ok (.first true .epoch), Store.fresh.withFirstSettings true .epoch) := rfl
  have hprepare : prepare true firstLaunch.now ⟨some ["q.db"], some .empty, true⟩ =
      ⟨.done, .migrating :: .migrated :: settingsEvents true [],
        ⟨some ["q.db"], some (Store.fresh.withFirstSettings true .epoch), true⟩⟩ := by
    simp only [prepare, Connection.run, hmigrate, true_or, if_true, prepareSettings, hsettings]
    rw [countTags_eq _ rfl rfl]
    rfl
  have hrun : run firstLaunch.now firstLaunch.env .empty =
      (⟨.done, .starting :: .connected 100 :: .migrating :: .migrated :: settingsEvents true [],
        .standard⟩,
      (Directory.empty.set ["q.db"] (.text "")).close
        ⟨some ["q.db"], some (Store.fresh.withFirstSettings true .epoch), true⟩) := by
    rw [run, hvariables]
    simp only [hfilter, proceed, hload, hconnect, hprepare, if_true, List.singleton_append]
  have hwithout : withFiles .empty firstLaunch.files = .empty := rfl
  rw [history, List.head?_cons, occurrence, hwithout, hrun]
  refine ⟨_, rfl, ⟨⟨⟨some ["q.db"], some .empty, true⟩, ?_, rfl⟩, ?_⟩, rfl⟩
  · simp only [Occurrence.connection?, Occurrence.configuration, hvariables, hload, hconnect]
  · simp

end Startup

end TagTimeline
