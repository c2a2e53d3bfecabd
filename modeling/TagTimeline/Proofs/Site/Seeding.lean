import Mathlib.Data.List.Induction
import Mathlib.Logic.Function.Basic
import TagTimeline.Proofs.Site.Writing
import TagTimeline.Store.Migration

/-!
# Making the Row of Settings by Turns

Any number of callers who make the row of settings at the same time. Each of them looks for the row
and, if it found none, inserts it; between the two statements others may do theirs, in any order.

The first insert makes the row, and the table refuses every later one. So there is one row, which
never changes: whoever is not refused answers it, with the setting of the caller whose insert came
first, or the row that was there before.

## Main results

* `Seeding.run_twice` — a caller without others makes the row as the operation does.
* `Seeding.step_effect` — everything that one statement of a caller can do.
* `Seeding.agree_run` — what all callers agree on, in any order of their statements.
-/

namespace TagTimeline

open Time

/-- **A caller who makes the row of settings**: with what setting, and the time that it reads off
its clock. -/
structure Seeder where
  requiredTag : Bool
  now : Timestamp

namespace Seeder

/-- The row that a caller inserts. -/
def row (seeder : Seeder) : SiteSettings := SiteSettings.first seeder.requiredTag seeder.now

end Seeder

/-- **How far a caller is.** -/
inductive SeedingStage where
  /-- It is about to look for the row. -/
  | starting
  /-- It has found no row and is about to insert one. -/
  | missed
  | returned (answer : Except ServiceError SiteSettings)

/-- **Callers at work** on a store. -/
structure Seeding (ι : Type) where
  store : Store
  stage : ι → SeedingStage

namespace Seeding

variable {ι : Type} [DecidableEq ι]

/-- All callers before their first statement. -/
def start (s : Store) : Seeding ι := ⟨s, fun _ => .starting⟩

/-- A caller comes to a stage. -/
def withStage (seeding : Seeding ι) (i : ι) (stage : SeedingStage) : Seeding ι :=
  { seeding with stage := Function.update seeding.stage i stage }

/-- **The next statement of a caller**; one that has returned does nothing more. -/
def step (callers : ι → Seeder) (seeding : Seeding ι) (i : ι) : Seeding ι :=
  match seeding.stage i with
  | .starting =>
      match seeding.store.findSettings with
      | .error e => seeding.withStage i (.returned (.error e))
      | .ok (some row) => seeding.withStage i (.returned (.ok row))
      | .ok none => seeding.withStage i .missed
  | .missed =>
      let (answer, store) :=
        seeding.store.insertSettings (callers i).requiredTag (callers i).now
      { seeding.withStage i (.returned answer) with store := store }
  | .returned _ => seeding

/-- **Statements of callers, one after the other**: whose turn it is, from first to last. -/
def run (callers : ι → Seeder) (turns : List ι) (s : Store) : Seeding ι :=
  turns.foldl (step callers) (start s)

variable {callers : ι → Seeder} {turns : List ι} {i : ι} {s : Store}

/-- One statement more. -/
theorem run_concat : run callers (turns ++ [i]) s = step callers (run callers turns s) i := by
  rw [run, List.foldl_append]
  rfl

/-- **A caller without others** makes the row as the operation on the store does. -/
theorem run_twice (callers : ι → Seeder) (i : ι) (s : Store) :
    ((run callers [i, i] s).stage i, (run callers [i, i] s).store) =
      (.returned (s.getOrCreateSettings (callers i).requiredTag (callers i).now).1,
        (s.getOrCreateSettings (callers i).requiredTag (callers i).now).2) := by
  have hrun : run callers [i, i] s = step callers (step callers (start s) i) i := rfl
  rw [hrun, step.eq_def callers (start s), start, Store.getOrCreateSettings]
  rcases s.findSettings with e | _ | row <;> simp [step, withStage]

/-! ### One statement -/

/-- **What a statement of a caller does**, by the row that there is: what becomes of the callers and
the store, and of the row. -/
inductive Effect (callers : ι → Seeder) (seeding : Seeding ι) (i : ι) (row? : Option SiteSettings) :
    Seeding ι → Option SiteSettings → Prop where
  /-- A caller that has returned does nothing. -/
  | idle (answer : Except ServiceError SiteSettings) (stage : seeding.stage i = .returned answer) :
      Effect callers seeding i row? seeding row?
  /-- It finds the row and returns it. -/
  | found (row : SiteSettings) (stage : seeding.stage i = .starting) (stored : row? = some row) :
      Effect callers seeding i row? (seeding.withStage i (.returned (.ok row))) row?
  /-- It finds none. -/
  | missed (stage : seeding.stage i = .starting) (stored : row? = none) :
      Effect callers seeding i row? (seeding.withStage i .missed) row?
  /-- It inserts the row and returns it. -/
  | inserted (stage : seeding.stage i = .missed) (stored : row? = none) :
      Effect callers seeding i row?
        { seeding.withStage i (.returned (.ok (callers i).row)) with
          store := seeding.store.withRows [(callers i).row] }
        (some (callers i).row)
  /-- Its insert is refused, as there is a row. -/
  | refused (row : SiteSettings) (why : String) (stage : seeding.stage i = .missed)
      (stored : row? = some row) :
      Effect callers seeding i row? (seeding.withStage i (.returned (.error (.database why)))) row?

/-- **Everything that one statement of a caller can do.** -/
theorem step_effect {seeding : Seeding ι} {row? : Option SiteSettings}
    (h : seeding.store.HasSettings row?) (callers : ι → Seeder) (i : ι) :
    ∃ row?', Effect callers seeding i row? (step callers seeding i) row?' := by
  rw [step]
  cases hstage : seeding.stage i with
  | returned answer => exact ⟨row?, .idle answer hstage⟩
  | starting =>
      simp only [h.findSettings_eq]
      cases row? with
      | none => exact ⟨none, .missed hstage rfl⟩
      | some row => exact ⟨some row, .found row hstage rfl⟩
  | missed =>
      simp only [Store.insertSettings]
      rw [Store.write_eq h.rows]
      cases row? with
      | none => exact ⟨_, .inserted hstage rfl⟩
      | some row =>
          have hid : row.id = (SiteSettings.first (callers i).requiredTag (callers i).now).id :=
            h.id row rfl
          have hclash : Statement.insert SiteSettings.clash?
              (SiteSettings.first (callers i).requiredTag (callers i).now)
              (some row).toList = .error (.takenKey TableName.siteSettings.name "id") := by
            simp [Statement.insert, SiteSettings.clash?, hid]
          simp only [hclash]
          exact ⟨some row, .refused row _ hstage rfl⟩

/-- **What holds at every moment**: there is one row at most, callers that returned a row returned
that one, and the others failed with the store. -/
structure IsOrderly (seeding : Seeding ι) (row? : Option SiteSettings) : Prop where
  stored : seeding.store.HasSettings row?
  answered : ∀ i row, seeding.stage i = .returned (.ok row) → row? = some row
  failed : ∀ i e, seeding.stage i = .returned (.error e) → ∃ why, e = .database why

omit [DecidableEq ι] in
/-- At the start nobody has returned. -/
theorem isOrderly_start {row? : Option SiteSettings} (h : s.HasSettings row?) :
    (start s : Seeding ι).IsOrderly row? := by
  refine ⟨h, fun i row hstage => ?_, fun i e hstage => ?_⟩ <;> cases hstage

/-- A caller that comes to a stage fitting the row keeps everything orderly. -/
theorem IsOrderly.withStage {seeding : Seeding ι} {row? : Option SiteSettings}
    (h : seeding.IsOrderly row?) {stage : SeedingStage}
    (hanswered : ∀ row, stage = .returned (.ok row) → row? = some row)
    (hfailed : ∀ e, stage = .returned (.error e) → ∃ why, e = .database why) :
    (seeding.withStage i stage).IsOrderly row? := by
  refine ⟨h.stored, fun j row hstage => ?_, fun j e hstage => ?_⟩
  · by_cases hj : j = i
    · subst hj
      exact hanswered row (by simpa [Seeding.withStage] using hstage)
    · exact h.answered j row (by simpa [Seeding.withStage, hj] using hstage)
  · by_cases hj : j = i
    · subst hj
      exact hfailed e (by simpa [Seeding.withStage] using hstage)
    · exact h.failed j e (by simpa [Seeding.withStage, hj] using hstage)

/-- **Every statement keeps everything orderly.** -/
theorem Effect.isOrderly {seeding seeding' : Seeding ι} {row? row?' : Option SiteSettings}
    (heffect : Effect callers seeding i row? seeding' row?') (h : seeding.IsOrderly row?) :
    seeding'.IsOrderly row?' := by
  cases heffect with
  | idle => exact h
  | found row _ hstored =>
      subst hstored
      refine h.withStage ?_ ?_ <;> rintro _ ⟨⟩
      rfl
  | missed =>
      refine h.withStage ?_ ?_ <;> rintro _ ⟨⟩
  | inserted _ hstored =>
      subst hstored
      have hstored' : (seeding.store.withRows [(callers i).row]).HasSettings
          (some (callers i).row) := by
        refine ⟨Store.rows?_withRows h.stored.rows _, ?_⟩
        rintro row ⟨⟩
        rfl
      -- nobody could have returned a row before
      refine ⟨hstored', fun j row hstage => ?_, fun j e hstage => ?_⟩
      · by_cases hj : j = i
        · subst hj
          simpa [Seeding.withStage] using hstage
        · have hearlier := h.answered j row (by simpa [Seeding.withStage, hj] using hstage)
          cases hearlier
      · by_cases hj : j = i
        · subst hj
          simp [Seeding.withStage] at hstage
        · exact h.failed j e (by simpa [Seeding.withStage, hj] using hstage)
  | refused row why =>
      refine h.withStage ?_ ?_
      · rintro _ ⟨⟩
      · rintro _ ⟨⟩
        exact ⟨why, rfl⟩

/-- A row that there is stays, in the very same store. -/
theorem Effect.of_some {seeding seeding' : Seeding ι} {row : SiteSettings}
    {row?' : Option SiteSettings}
    (heffect : Effect callers seeding i (some row) seeding' row?') :
    seeding'.store = seeding.store ∧ row?' = some row := by
  cases heffect with
  | idle | found | refused => exact ⟨rfl, rfl⟩
  | missed _ hstored | inserted _ hstored => cases hstored

/-- What a caller has returned, it has returned. -/
theorem Effect.returned {seeding seeding' : Seeding ι} {row? row?' : Option SiteSettings} {j : ι}
    {answer : Except ServiceError SiteSettings}
    (heffect : Effect callers seeding i row? seeding' row?')
    (hstage : seeding.stage j = .returned answer) : seeding'.stage j = .returned answer := by
  have hne : seeding.stage i ≠ .returned answer → j ≠ i := fun hi heq => hi (heq ▸ hstage)
  cases heffect with
  | idle => exact hstage
  | found _ hi | missed hi | inserted hi | refused _ _ hi =>
      have hj : j ≠ i := hne (by rw [hi]; exact nofun)
      simpa [Seeding.withStage, hj] using hstage

end Seeding

namespace SeedingStage

/-- How many statements a caller has behind it at least. -/
def progress : SeedingStage → Nat
  | starting => 0
  | missed => 1
  | returned _ => 2

/-- Who has two statements behind it has returned. -/
theorem exists_returned {stage : SeedingStage} (h : 2 ≤ stage.progress) :
    ∃ answer, stage = returned answer := by
  cases stage with
  | returned answer => exact ⟨answer, rfl⟩
  | starting | missed => simp [progress] at h

end SeedingStage

namespace Seeding

variable {ι : Type} [DecidableEq ι] {callers : ι → Seeder} {turns : List ι} {i : ι} {s : Store}

/-- A statement brings its caller forward, and leaves the others where they are. -/
theorem Effect.progress {seeding seeding' : Seeding ι} {row? row?' : Option SiteSettings}
    (heffect : Effect callers seeding i row? seeding' row?') (j : ι) :
    min 2 ((seeding.stage j).progress + [i].count j) ≤ (seeding'.stage j).progress := by
  by_cases hj : j = i
  · subst hj
    cases heffect with
    | idle answer hstage => simp [hstage, SeedingStage.progress]
    | found _ hstage | missed hstage | inserted hstage | refused _ _ hstage =>
        simp [hstage, SeedingStage.progress, Seeding.withStage]
  · have hcount : [i].count j = 0 := List.count_eq_zero.mpr (by simpa using hj)
    have hsame : seeding'.stage j = seeding.stage j := by
      cases heffect with
      | idle => rfl
      | found | missed | inserted | refused => simp [Seeding.withStage, hj]
    rw [hsame, hcount]
    exact Nat.min_le_right _ _

/-! ### All statements -/

/-- **That an insert is next**: the caller has found no row before. -/
def Inserts (callers : ι → Seeder) (s : Store) (turns : List ι) (i : ι) : Prop :=
  (run callers turns s).stage i = .missed

/-- **That the insert of a caller comes first** of all that are made by turns. -/
def InsertsFirst (callers : ι → Seeder) (s : Store) (turns : List ι) (i : ι) : Prop :=
  ∃ earlier later, turns = earlier ++ i :: later ∧ Inserts callers s earlier i ∧
    ∀ before j more, earlier = before ++ j :: more → ¬ Inserts callers s before j

/-- An insert that came first did so whatever comes later. -/
theorem InsertsFirst.append (h : InsertsFirst callers s turns i) (more : List ι) :
    InsertsFirst callers s (turns ++ more) i := by
  obtain ⟨earlier, later, rfl, hinserts, hfirst⟩ := h
  exact ⟨earlier, later ++ more, by simp, hinserts, hfirst⟩

/-- **Where a row comes from**: it was there, or the caller whose insert came first made it. -/
inductive Origin (callers : ι → Seeder) (s : Store) (turns : List ι) :
    Option SiteSettings → Option SiteSettings → Prop where
  | stored (row : SiteSettings) : Origin callers s turns (some row) (some row)
  | none (noInsert : ∀ before j more, turns = before ++ j :: more → ¬ Inserts callers s before j) :
      Origin callers s turns none none
  | made (i : ι) (first : InsertsFirst callers s turns i)
      (answered : (run callers turns s).stage i = .returned (.ok (callers i).row)) :
      Origin callers s turns none (some (callers i).row)

/-- **The callers after any statements**: everything is orderly, and the row has its origin. -/
theorem isOrderly_run {row? : Option SiteSettings} (h : s.HasSettings row?)
    (callers : ι → Seeder) (turns : List ι) :
    ∃ kept, (run callers turns s).IsOrderly kept ∧ Origin callers s turns row? kept := by
  induction turns using List.reverseRecOn with
  | nil =>
      refine ⟨row?, isOrderly_start h, ?_⟩
      cases row? with
      | none => exact .none fun before j more hnil => by simp at hnil
      | some row => exact .stored row
  | append_singleton turns i ih =>
      obtain ⟨kept, horderly, horigin⟩ := ih
      obtain ⟨kept', heffect⟩ := step_effect horderly.stored callers i
      rw [← run_concat] at heffect
      refine ⟨kept', heffect.isOrderly horderly, ?_⟩
      cases horigin with
      | stored row =>
          obtain ⟨-, rfl⟩ := heffect.of_some
          exact .stored row
      | made j hfirst hanswered =>
          obtain ⟨-, rfl⟩ := heffect.of_some
          exact .made j (hfirst.append [i]) (heffect.returned hanswered)
      | none hnone =>
          by_cases hinserts : Inserts callers s turns i
          · -- the insert of this caller is the first of all
            have hkept' : kept' = some (callers i).row ∧
                (run callers (turns ++ [i]) s).stage i = .returned (.ok (callers i).row) := by
              generalize run callers (turns ++ [i]) s = after at heffect ⊢
              cases heffect with
              | inserted => exact ⟨rfl, by simp [withStage]⟩
              | idle _ hstage | found _ hstage | missed hstage =>
                  rw [Inserts, hstage] at hinserts
                  cases hinserts
              | refused _ _ _ hstored => cases hstored
            rw [hkept'.1]
            exact .made i ⟨turns, [], rfl, hinserts, hnone⟩ hkept'.2
          · have hkept' : kept' = none := by
              generalize run callers (turns ++ [i]) s = after at heffect
              cases heffect with
              | idle | missed => rfl
              | found _ _ hstored | refused _ _ _ hstored => cases hstored
              | inserted hstage => exact absurd hstage hinserts
            subst hkept'
            refine .none fun before j more hsplit => ?_
            rcases List.eq_nil_or_concat more with rfl | ⟨more, k, rfl⟩
            · obtain ⟨rfl, hj⟩ := List.append_inj' hsplit rfl
              obtain rfl : i = j := List.singleton_inj.mp hj
              exact hinserts
            · have hturns : turns ++ [i] = (before ++ j :: more) ++ [k] := by simpa using hsplit
              exact hnone before j more (List.append_inj_left' hturns rfl)

/-- What a caller has returned, it has returned whatever comes later. -/
theorem stage_run_append {row? : Option SiteSettings} (h : s.HasSettings row?)
    {answer : Except ServiceError SiteSettings}
    (hstage : (run callers turns s).stage i = .returned answer) (more : List ι) :
    (run callers (turns ++ more) s).stage i = .returned answer := by
  induction more using List.reverseRecOn with
  | nil => rw [List.append_nil, hstage]
  | append_singleton more j ih =>
      obtain ⟨kept, horderly, -⟩ := isOrderly_run h callers (turns ++ more)
      obtain ⟨kept', heffect⟩ := step_effect horderly.stored callers j
      rw [← List.append_assoc, run_concat]
      exact heffect.returned ih

/-- A row that there is stays whatever comes later, and all of the store with it. -/
theorem store_run_append {row : SiteSettings}
    (hrow : (run callers turns s).store.HasSettings (some row)) (more : List ι) :
    (run callers (turns ++ more) s).store = (run callers turns s).store := by
  induction more using List.reverseRecOn with
  | nil => rw [List.append_nil]
  | append_singleton more j ih =>
      have hrow' : (run callers (turns ++ more) s).store.HasSettings (some row) := ih ▸ hrow
      obtain ⟨kept', heffect⟩ := step_effect hrow' callers j
      rw [← List.append_assoc, run_concat, ← ih]
      exact heffect.of_some.1

/-- Every caller gets on with each of its statements. -/
theorem progress_run {row? : Option SiteSettings} (h : s.HasSettings row?)
    (callers : ι → Seeder) (turns : List ι) (i : ι) :
    min 2 (turns.count i) ≤ ((run callers turns s).stage i).progress := by
  induction turns using List.reverseRecOn with
  | nil => simp
  | append_singleton turns j ih =>
      obtain ⟨kept, horderly, -⟩ := isOrderly_run h callers turns
      obtain ⟨kept', heffect⟩ := step_effect horderly.stored callers j
      have hstep := heffect.progress i
      rw [run_concat, List.count_append]
      omega

/-- A statement of a caller that is refused in the end changes nothing. -/
theorem store_run_of_error {row? : Option SiteSettings} (h : s.HasSettings row?)
    {earlier later : List ι} {e : ServiceError}
    (hstage : (run callers (earlier ++ i :: later) s).stage i = .returned (.error e)) :
    (run callers (earlier ++ [i]) s).store = (run callers earlier s).store := by
  obtain ⟨kept, horderly, -⟩ := isOrderly_run h callers earlier
  obtain ⟨kept', heffect⟩ := step_effect horderly.stored callers i
  rw [← run_concat] at heffect
  generalize hafter : run callers (earlier ++ [i]) s = after at heffect ⊢
  cases heffect with
  | idle | found | missed | refused => rfl
  | inserted =>
      -- a caller that has inserted the row returns it
      have hok : (run callers (earlier ++ [i]) s).stage i = .returned (.ok (callers i).row) := by
        rw [hafter]
        simp [withStage]
      have hlater := stage_run_append h hok later
      rw [List.append_assoc, List.singleton_append, hstage] at hlater
      cases hlater

/-- **What all callers agree on**, whatever statements they have made. -/
structure Agree (callers : ι → Seeder) (turns : List ι) (s : Store)
    (before kept : Option SiteSettings) : Prop where
  /-- The table holds one row at most. -/
  stored : (run callers turns s).store.rows? SiteSettings = some kept.toList
  /-- A row never changes. -/
  lasting : ∀ row, kept = some row →
    ∀ more, (run callers (turns ++ more) s).store = (run callers turns s).store
  /-- It is the one that was there, or was made by the first insert. -/
  origin : Origin callers s turns before kept
  /-- A caller returns it, or a failure of the store without having changed anything. -/
  returned : ∀ i answer, (run callers turns s).stage i = .returned answer →
    (∃ row, kept = some row ∧ answer = .ok row) ∨
      (∃ why, answer = .error (.database why)) ∧
        ∀ earlier later, turns = earlier ++ i :: later →
          (run callers (earlier ++ [i]) s).store = (run callers earlier s).store
  /-- A caller has returned after its second statement. -/
  settled : ∀ i, 2 ≤ turns.count i → ∃ answer, (run callers turns s).stage i = .returned answer

/-- **Callers who make the row of settings by turns** agree on one row, in any order of their
statements and whatever settings they come with: there is never a second one, and it never changes.
It is the row that was there before them, or has the setting of the caller whose insert came first.
Every caller returns this row, or fails with the store and has changed nothing. A caller without
others makes the row as the operation on the store does. -/
theorem agree_run {row? : Option SiteSettings} (h : s.HasSettings row?) (callers : ι → Seeder)
    (turns : List ι) :
    (∃ kept, Agree callers turns s row? kept) ∧
      ∀ i, ((run callers [i, i] s).stage i, (run callers [i, i] s).store) =
        (.returned (s.getOrCreateSettings (callers i).requiredTag (callers i).now).1,
          (s.getOrCreateSettings (callers i).requiredTag (callers i).now).2) := by
  obtain ⟨kept, horderly, horigin⟩ := isOrderly_run h callers turns
  refine ⟨?_, fun i => run_twice callers i s⟩
  refine ⟨kept, horderly.stored.rows, fun row hrow => ?_, horigin, fun i answer hstage => ?_,
    fun i hcount => ?_⟩
  · exact store_run_append (hrow ▸ horderly.stored)
  · cases answer with
    | ok row => exact .inl ⟨row, horderly.answered i row hstage, rfl⟩
    | error e =>
        obtain ⟨why, rfl⟩ := horderly.failed i e hstage
        refine .inr ⟨⟨why, rfl⟩, fun earlier later hturns => ?_⟩
        rw [hturns] at hstage
        exact store_run_of_error h hstage
  · have hprogress := progress_run h callers turns i
    exact SeedingStage.exists_returned (by omega)

/-- Two callers, with different settings. -/
def twoSeeders : Fin 2 → Seeder
  | 0 => ⟨true, .epoch⟩
  | 1 => ⟨false, .epoch⟩

/-- Two callers who both find no row: the one who inserts first has its setting stored, and the
other is refused. -/
theorem agree_run_both :
    Store.fresh.HasSettings none ∧
      (∃ kept, Agree twoSeeders [0, 1, 1, 0] .fresh none kept) ∧
      (run twoSeeders [0, 1, 1, 0] .fresh).store.rows? SiteSettings =
        some [SiteSettings.first false .epoch] := by
  have hfresh : Store.fresh.HasSettings none := ⟨by decide, by simp⟩
  exact ⟨hfresh, (agree_run hfresh twoSeeders [0, 1, 1, 0]).1, by decide⟩

end Seeding

end TagTimeline
