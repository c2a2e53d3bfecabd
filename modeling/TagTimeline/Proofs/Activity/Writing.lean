import Mathlib.Logic.Relation
import TagTimeline.Proofs.Store.Call

/-!
# Writing the Activity Log

What runs make of the log of activities. A call of any operation leaves the log, puts a new activity
behind it, or cancels one activity; nothing else ever happens to it. So an activity that has been
recorded stays at its place with everything it was recorded with, and its cancellation is not taken
back.

## Main results

* `Call.logStep_run` — what a call does to the log.
* `Activity.Extends` — that one log continues another, as every log does those before it.
* `Store.rows?_activity_after` — the log in a run.
-/

namespace TagTimeline

open Time

namespace Activity

/-- An activity behind the cancellation of the one with an id. -/
def cancelling (id : String) (now : Timestamp) (a : Activity) : Activity :=
  if a.id == id then { a with cancelled := true, cancelledAt := some now } else a

/-- **What stays of a recorded activity**: all of it but its cancellation, which is not taken
back. -/
structure Continues (earlier later : Activity) : Prop where
  id : later.id = earlier.id
  userId : later.userId = earlier.userId
  objectId : later.objectId = earlier.objectId
  originalObjectId : later.originalObjectId = earlier.originalObjectId
  activityType : later.activityType = earlier.activityType
  revisionId : later.revisionId = earlier.revisionId
  createdAt : later.createdAt = earlier.createdAt
  cancelled : earlier.cancelled = true → later.cancelled = true

namespace Continues

/-- An activity continues itself. -/
theorem refl (a : Activity) : a.Continues a := ⟨rfl, rfl, rfl, rfl, rfl, rfl, rfl, fun h => h⟩

/-- What continues a continuation continues the first. -/
theorem trans {a b c : Activity} (hab : a.Continues b) (hbc : b.Continues c) : a.Continues c :=
  ⟨hbc.id.trans hab.id, hbc.userId.trans hab.userId, hbc.objectId.trans hab.objectId,
    hbc.originalObjectId.trans hab.originalObjectId, hbc.activityType.trans hab.activityType,
    hbc.revisionId.trans hab.revisionId, hbc.createdAt.trans hab.createdAt,
    fun h => hbc.cancelled (hab.cancelled h)⟩

/-- A cancellation continues every activity. -/
theorem cancelling (id : String) (now : Timestamp) (a : Activity) :
    a.Continues (a.cancelling id now) := by
  rw [Activity.cancelling]
  split
  · exact ⟨rfl, rfl, rfl, rfl, rfl, rfl, rfl, fun _ => rfl⟩
  · exact refl a

end Continues

/-- A cancellation keeps all ids. -/
theorem map_id_cancelling (id : String) (now : Timestamp) (rows : List Activity) :
    (rows.map (cancelling id now)).map Activity.id = rows.map Activity.id := by
  rw [List.map_map]
  exact List.map_congr_left fun a _ => (Continues.cancelling id now a).id

/-- Two activities clash exactly if they have the same id. -/
theorem clash?_eq_none_iff {new old : Activity} : clash? new old = none ↔ old.id ≠ new.id := by
  rw [clash?]
  by_cases hid : old.id = new.id <;> simp [hid]

/-- **The state that the log is always in**: ids are distinct, and exactly the cancelled activities
have the time of their cancellation. -/
structure IsLog (rows : List Activity) : Prop where
  ids : (rows.map Activity.id).Nodup
  cancellations : ∀ a ∈ rows, a.cancelled = true ↔ ∃ time, a.cancelledAt = some time

/-- **That a log continues another**: whatever is recorded in the one stays at its place in the
other. -/
def Extends (rows rows' : List Activity) : Prop :=
  ∀ (i : Nat) (a : Activity), rows[i]? = some a → ∃ a', rows'[i]? = some a' ∧ a.Continues a'

/-- A log continues itself. -/
theorem Extends.refl (rows : List Activity) : Extends rows rows :=
  fun _ a ha => ⟨a, ha, Continues.refl a⟩

/-- What continues a continuation continues the first. -/
theorem Extends.trans {rows rows' rows'' : List Activity} (h : Extends rows rows')
    (h' : Extends rows' rows'') : Extends rows rows'' := by
  intro i a ha
  obtain ⟨a', ha', hcontinues⟩ := h i a ha
  obtain ⟨a'', ha'', hcontinues'⟩ := h' i a' ha'
  exact ⟨a'', ha'', hcontinues.trans hcontinues'⟩

/-- **What can happen to the log at once**: nothing, a new activity under an id that no other has,
or the cancellation of the activity with an id. -/
inductive LogStep (rows : List Activity) : List Activity → Prop where
  | same : LogStep rows rows
  | recorded (id : String) (now : Timestamp) (new : NewActivity) (hfresh : ∀ a ∈ rows, a.id ≠ id) :
      LogStep rows (rows ++ [new.toActivity id now])
  | cancelled (id : String) (now : Timestamp) : LogStep rows (rows.map (cancelling id now))

namespace LogStep

variable {rows rows' : List Activity}

/-- A step keeps the log in its state. -/
theorem isLog (h : LogStep rows rows') (hlog : IsLog rows) : IsLog rows' := by
  cases h with
  | same => exact hlog
  | recorded id now new hfresh =>
      refine ⟨?_, fun a ha => ?_⟩
      · rw [List.map_append, List.map_singleton]
        refine List.nodup_append.mpr
          ⟨hlog.ids, List.nodup_singleton _, fun key hkey key' hkey' => ?_⟩
        obtain ⟨a, ha, rfl⟩ := List.mem_map.mp hkey
        rw [List.mem_singleton.mp hkey']
        exact hfresh a ha
      · rcases List.mem_append.mp ha with ha | ha
        · exact hlog.cancellations a ha
        · rw [List.mem_singleton.mp ha]
          simp [NewActivity.toActivity]
  | cancelled id now =>
      refine ⟨by rw [map_id_cancelling]; exact hlog.ids, fun a ha => ?_⟩
      obtain ⟨b, hb, rfl⟩ := List.mem_map.mp ha
      rw [cancelling]
      split
      · simp
      · exact hlog.cancellations b hb

/-- A step continues the log. -/
theorem toExtends (h : LogStep rows rows') : Extends rows rows' := by
  cases h with
  | same => exact Extends.refl rows
  | recorded id now new hfresh =>
      intro i a ha
      obtain ⟨hi, -⟩ := List.getElem?_eq_some_iff.mp ha
      exact ⟨a, by rw [List.getElem?_append_left hi, ha], Continues.refl a⟩
  | cancelled id now =>
      intro i a ha
      exact ⟨a.cancelling id now, by rw [List.getElem?_map, ha]; rfl, Continues.cancelling id now a⟩

end LogStep

end Activity

namespace Store

variable {s : Store} {rows : List Activity}

/-- **An activity is recorded** exactly if no other has its id, and is then the last of the log. -/
theorem createActivity_eq (h : s.rows? Activity = some rows) (id : String) (now : Timestamp)
    (new : NewActivity) :
    ((∀ a ∈ rows, a.id ≠ id) ∧ s.createActivity id now new =
      (.ok (new.toActivity id now), s.withRows (rows ++ [new.toActivity id now]))) ∨
    ((∃ a ∈ rows, a.id = id) ∧ ∃ e, s.createActivity id now new = (.error e, s)) := by
  simp only [createActivity]
  rcases write_insert h "insert activity" Activity.clash? (new.toActivity id now) with
    ⟨hfree, hinsert⟩ | ⟨⟨a, ha, hclash⟩, failure, hinsert⟩
  · exact .inl ⟨fun a ha => Activity.clash?_eq_none_iff.mp (hfree a ha), hinsert⟩
  · refine .inr ⟨⟨a, ha, ?_⟩, _, hinsert⟩
    by_contra hid
    exact hclash (Activity.clash?_eq_none_iff.mpr hid)

/-- **Cancelling an activity** always succeeds. -/
theorem cancelActivity_eq (h : s.rows? Activity = some rows) (id : String) (now : Timestamp) :
    s.cancelActivity id now = (.ok (), s.withRows (rows.map (Activity.cancelling id now))) :=
  write_update h _ _ _

/-- An activity that is not there cannot be cancelled; nothing changes. -/
theorem cancelActivity_of_absent (h : s.rows? Activity = some rows) {id : String}
    (habsent : ∀ a ∈ rows, a.id ≠ id) (now : Timestamp) :
    s.cancelActivity id now = (.ok (), s) := by
  have hsame : rows.map (Activity.cancelling id now) = rows :=
    (List.map_congr_left fun a ha => if_neg (by simpa using habsent a ha)).trans (List.map_id rows)
  rw [cancelActivity_eq h, hsame, withRows_self h]

end Store

namespace Call

variable {α : Type} {s : Store} {rows : List Activity}

/-- **What a call does to the log**: one step. -/
theorem logStep_run (h : s.rows? Activity = some rows) (call : Call α) :
    ∃ rows', (call.run s).2.rows? Activity = some rows' ∧ Activity.LogStep rows rows' := by
  by_cases hlog : call.written? = some .activity
  · cases call with
    | createActivity id now new =>
        rcases Store.createActivity_eq h id now new with ⟨hfresh, hcreate⟩ | ⟨-, e, hcreate⟩
        · rw [run, hcreate]
          exact ⟨_, Store.rows?_withRows h _, .recorded id now new hfresh⟩
        · rw [run, hcreate]
          exact ⟨rows, h, .same⟩
    | cancelActivity id now =>
        rw [run, Store.cancelActivity_eq h]
        exact ⟨_, Store.rows?_withRows h _, .cancelled id now⟩
    | _ => cases hlog
  · exact ⟨rows, (rows?_run_other hlog s).trans h, .same⟩

end Call

namespace Activity

/-- **What happens to the log in a run**: step after step. -/
abbrev LogSteps : List Activity → List Activity → Prop := Relation.ReflTransGen LogStep

namespace LogSteps

variable {rows rows' : List Activity}

/-- Every run keeps the log in its state. -/
theorem isLog (h : LogSteps rows rows') (hlog : IsLog rows) : IsLog rows' := by
  induction h with
  | refl => exact hlog
  | tail _ hstep ih => exact hstep.isLog ih

/-- Every run continues the log. -/
theorem toExtends (h : LogSteps rows rows') : Extends rows rows' := by
  induction h with
  | refl => exact Extends.refl rows
  | tail _ hstep ih => exact ih.trans hstep.toExtends

end LogSteps

end Activity

namespace Store

/-- Calls take the log step after step. -/
theorem logSteps_foldl {s : Store} {rows : List Activity} (h : s.rows? Activity = some rows)
    (calls : List ((α : Type) × Call α)) :
    ∃ rows', (calls.foldl (fun s call => (call.2.run s).2) s).rows? Activity = some rows' ∧
      Activity.LogSteps rows rows' := by
  induction calls generalizing s rows with
  | nil => exact ⟨rows, h, .refl⟩
  | cons call more ih =>
      obtain ⟨rows₁, h₁, hstep⟩ := call.2.logStep_run h
      obtain ⟨rows₂, h₂, hsteps⟩ := ih h₁
      exact ⟨rows₂, h₂, hsteps.head hstep⟩

/-- **The log at two moments of a run**, the later one behind the steps that the calls in between
took. -/
theorem rows?_activity_after (before after : List ((α : Type) × Call α)) :
    ∃ rows rows', (afterCalls before).rows? Activity = some rows ∧
      (afterCalls (before ++ after)).rows? Activity = some rows' ∧
      Activity.IsLog rows ∧ Activity.LogSteps rows rows' := by
  have hfresh : fresh.rows? Activity = some [] := by decide
  obtain ⟨rows, hrows, hfirst⟩ := logSteps_foldl hfresh before
  obtain ⟨rows', hrows', hsteps⟩ := logSteps_foldl hrows after
  refine ⟨rows, rows', hrows, ?_, hfirst.isLog ⟨List.nodup_nil, by simp⟩, hsteps⟩
  rw [afterCalls, List.foldl_append]
  exact hrows'

end Store

end TagTimeline
