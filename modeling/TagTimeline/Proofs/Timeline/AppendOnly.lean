import TagTimeline.Proofs.Activity.Writing
import TagTimeline.Proofs.Keys
import TagTimeline.Proofs.Timeline.Listing

/-!
# Timelines Only Grow

What the log of activities is to clients. A new activity is an entry more on the timeline of its
object, wherever its time puts it among the others: clocks may stand still or run backwards. A
cancellation marks one entry. Neither touches another entry or another timeline, and no other
operation has a part in timelines, so what has once been listed stays listed, in the order in which
it was.

## Main results

* `Timeline.isRecorded_of_concat`, `Timeline.isCancelled_of_map` — what recording and cancelling an
  activity do to timelines.
* `Timeline.afterCalls_appendOnly` — the log and the timelines in every run.
-/

namespace TagTimeline

open Time

namespace Activity

variable (objectId : String) (showVote : Bool)

/-- A single activity is on the timeline of its object, unless it is a vote that is not wanted. -/
theorem onTimeline_singleton (a : Activity) :
    onTimeline objectId showVote [a] =
      if a.originalObjectId = objectId ∧ (showVote = true ∨ a.isVote = false) then [a] else [] := by
  by_cases ha : a.originalObjectId = objectId ∧ (showVote = true ∨ a.isVote = false)
  · rw [if_pos ha, onTimeline, List.filter_cons_of_pos (by simpa [isVote] using ha),
      List.filter_nil, List.mergeSort_singleton]
  · rw [if_neg ha, onTimeline, List.filter_cons_of_neg (by simpa [isVote] using ha),
      List.filter_nil, List.mergeSort_nil]

/-- **An activity more** is somewhere among the others of the timeline, if it is on it. -/
theorem onTimeline_concat (rows : List Activity) (a : Activity) :
    ∃ front back, onTimeline objectId showVote rows = front ++ back ∧
      onTimeline objectId showVote (rows ++ [a]) =
        front ++ onTimeline objectId showVote [a] ++ back := by
  rw [onTimeline_singleton, onTimeline, onTimeline, List.filter_append]
  by_cases ha : a.originalObjectId = objectId ∧ (showVote = true ∨ a.isVote = false)
  · obtain ⟨front, back, hrows, hmore⟩ := Sorting.mergeSort_concat notAfter_trans notAfter_total
      (rows.filter fun a => a.originalObjectId == objectId &&
        (showVote || !ActivityKind.voteCodes.contains a.activityType)) a
    refine ⟨front, back, hrows, ?_⟩
    rw [if_pos ha, List.filter_cons_of_pos (by simpa [isVote] using ha), List.filter_nil, hmore,
      List.append_assoc, List.singleton_append]
  · refine ⟨_, [], (List.append_nil _).symm, ?_⟩
    rw [if_neg ha, List.filter_cons_of_neg (by simpa [isVote] using ha), List.filter_nil,
      List.append_nil, List.append_nil, List.append_nil]

/-- **A cancellation** has no part in the order of a timeline. -/
theorem onTimeline_map_cancelling (id : String) (now : Timestamp) (rows : List Activity) :
    onTimeline objectId showVote (rows.map (cancelling id now)) =
      (onTimeline objectId showVote rows).map (cancelling id now) := by
  have hcreated (a : Activity) : (a.cancelling id now).createdAt = a.createdAt :=
    (Continues.cancelling id now a).createdAt
  rw [onTimeline, onTimeline, List.filter_map, List.map_mergeSort]
  · congr 2
    refine List.filter_congr fun a _ => ?_
    simp only [Function.comp_apply, (Continues.cancelling id now a).originalObjectId,
      (Continues.cancelling id now a).activityType]
  · intro a _ b _
    rw [notAfter, notAfter, hcreated, hcreated, (Continues.cancelling id now a).id,
      (Continues.cancelling id now b).id]

end Activity

/-- An entry behind the cancellation of its activity. -/
def TimelineEntry.cancel (now : Timestamp) (entry : TimelineEntry) : TimelineEntry :=
  { entry with cancelled := true, cancelledAt := some now.unixSeconds }

namespace Timeline

variable {resolvers : Resolvers} {s s' : Store} {rows rows' : List Activity}

/-- The entries of a timeline out of the log. -/
def entriesOf (resolvers : Resolvers) (objectId : String) (showVote : Bool)
    (rows : List Activity) : List TimelineEntry :=
  (Activity.onTimeline objectId showVote rows).filterMap (entryOf? resolvers)

/-- The object whose timeline is asked for. -/
def subject (resolvers : Resolvers) (request : TimelineRequest) : Except ServiceError ObjectInfo :=
  match request.violations with
  | [] => resolvers.object request.objectId
  | violations => .error (refusal violations)

/-- An object that can be looked up can be asked for. -/
theorem subject_of_object {objectId : String} {info : ObjectInfo} (hid : objectId ≠ "")
    (hinfo : resolvers.object objectId = .ok info) (showVote : Bool) :
    subject resolvers ⟨objectId, showVote⟩ = .ok info := by
  have hnone : (TimelineRequest.mk objectId showVote).violations = [] := by
    simp [TimelineRequest.violations, Violation.checkNotEmpty, hid]
  rw [subject, hnone]
  exact hinfo

/-- **What is answered** of a log: the object, which has nothing to do with the log, and entries. -/
theorem ofRequest_eq_map (hrows : s.rows? Activity = some rows) (resolvers : Resolvers)
    (request : TimelineRequest) :
    ofRequest resolvers request s = (subject resolvers request).map fun info =>
      ⟨info, entriesOf resolvers request.objectId request.showVote rows⟩ := by
  have hread : s.activitiesOf request.objectId request.showVote =
      .ok (Activity.onTimeline request.objectId request.showVote rows) :=
    Store.select_ok_iff.mpr ⟨rows, hrows, rfl⟩
  rw [ofRequest, subject, hread]
  cases request.violations with
  | cons => rfl
  | nil => cases resolvers.object request.objectId <;> rfl

/-- A timeline is answered for every object that can be looked up. -/
theorem ofRequest_eq_ok (hrows : s.rows? Activity = some rows) {objectId : String}
    {info : ObjectInfo} (hid : objectId ≠ "") (hinfo : resolvers.object objectId = .ok info)
    (showVote : Bool) :
    ofRequest resolvers ⟨objectId, showVote⟩ s =
      .ok ⟨info, entriesOf resolvers objectId showVote rows⟩ := by
  rw [ofRequest_eq_map hrows, subject_of_object hid hinfo]
  rfl

/-- The same entries make the same timeline. -/
theorem ofRequest_congr (hrows : s.rows? Activity = some rows)
    (hrows' : s'.rows? Activity = some rows') {request : TimelineRequest}
    (h : entriesOf resolvers request.objectId request.showVote rows' =
      entriesOf resolvers request.objectId request.showVote rows) :
    ofRequest resolvers request s' = ofRequest resolvers request s := by
  rw [ofRequest_eq_map hrows, ofRequest_eq_map hrows', h]

/-- An entry tells of an activity of its object. -/
theorem exists_mem_of_mem_entriesOf {objectId : String} {showVote : Bool} {entry : TimelineEntry}
    (h : entry ∈ entriesOf resolvers objectId showVote rows) :
    ∃ a ∈ rows, a.originalObjectId = objectId ∧ entry.Tells a := by
  obtain ⟨a, ha, hentry⟩ := List.mem_filterMap.mp h
  obtain ⟨hrow, hon⟩ := List.mem_filter.mp (List.mem_mergeSort.mp ha)
  rw [Bool.and_eq_true, beq_iff_eq] at hon
  exact ⟨a, hrow, hon.1, tells_of_entryOf? hentry⟩

/-- **One activity more** adds its entry, if it has one, somewhere among the others. -/
theorem entriesOf_concat (resolvers : Resolvers) (objectId : String) (showVote : Bool)
    (rows : List Activity) (a : Activity) :
    ∃ front back, entriesOf resolvers objectId showVote rows = front ++ back ∧
      entriesOf resolvers objectId showVote (rows ++ [a]) =
        front ++ entriesOf resolvers objectId showVote [a] ++ back := by
  obtain ⟨front, back, hrows, hmore⟩ := Activity.onTimeline_concat objectId showVote rows a
  refine ⟨front.filterMap (entryOf? resolvers), back.filterMap (entryOf? resolvers), ?_, ?_⟩
  · rw [entriesOf, hrows, List.filterMap_append]
  · rw [entriesOf, hmore, List.filterMap_append, List.filterMap_append, entriesOf]

/-- Nothing is added by an activity without an entry on the timeline. -/
theorem entriesOf_concat_of_nil {objectId : String} {showVote : Bool} {a : Activity}
    (h : entriesOf resolvers objectId showVote [a] = []) (rows : List Activity) :
    entriesOf resolvers objectId showVote (rows ++ [a]) =
      entriesOf resolvers objectId showVote rows := by
  obtain ⟨front, back, hrows, hmore⟩ := entriesOf_concat resolvers objectId showVote rows a
  rw [hrows, hmore, h, List.append_nil]

/-- The entry of a cancelled activity. -/
theorem entryOf?_cancelling (resolvers : Resolvers) (id : String) (now : Timestamp)
    (a : Activity) :
    entryOf? resolvers (a.cancelling id now) = (entryOf? resolvers a).map fun entry =>
      if entry.activityId = id then entry.cancel now else entry := by
  rw [Activity.cancelling]
  by_cases hid : a.id = id
  · rw [if_pos (by simpa using hid), entryOf?, entryOf?, Option.map_map]
    refine Option.map_congr fun caption _ => ?_
    simp only [Function.comp_apply, if_pos hid]
    rfl
  · rw [if_neg (by simpa using hid), entryOf?, Option.map_map]
    refine Option.map_congr fun caption _ => ?_
    simp only [Function.comp_apply, if_neg hid]

/-- **A cancellation** marks the entries of the activity. -/
theorem entriesOf_map_cancelling (resolvers : Resolvers) (objectId : String) (showVote : Bool)
    (id : String) (now : Timestamp) (rows : List Activity) :
    entriesOf resolvers objectId showVote (rows.map (Activity.cancelling id now)) =
      (entriesOf resolvers objectId showVote rows).map fun entry =>
        if entry.activityId = id then entry.cancel now else entry := by
  rw [entriesOf, Activity.onTimeline_map_cancelling, List.filterMap_map, entriesOf,
    List.map_filterMap]
  exact List.filterMap_congr fun a _ => entryOf?_cancelling resolvers id now a

/-- **That an activity is recorded**, as clients see it: its entry comes to those on the timeline of
its object, none if it is of a kind without a label or a vote that is not wanted; all else stays as
it was. -/
structure IsRecorded (s s' : Store) (id : String) (now : Timestamp) (new : NewActivity) : Prop where
  log : ∃ rows, s.rows? Activity = some rows ∧
    s'.rows? Activity = some (rows ++ [new.toActivity id now])
  others : ∀ resolvers request, request.objectId ≠ new.originalObjectId →
    ofRequest resolvers request s' = ofRequest resolvers request s
  hidden : ∀ resolvers request,
    new.kind.label? = none ∨ request.showVote = false ∧ new.kind.isVote = true →
      ofRequest resolvers request s' = ofRequest resolvers request s
  shown : ∀ resolvers showVote info, new.originalObjectId ≠ "" →
    resolvers.object new.originalObjectId = .ok info →
    new.kind.label? ≠ none → (showVote = false → new.kind.isVote = false) →
    ∃ front entry back,
      ofRequest resolvers ⟨new.originalObjectId, showVote⟩ s = .ok ⟨info, front ++ back⟩ ∧
      ofRequest resolvers ⟨new.originalObjectId, showVote⟩ s' =
        .ok ⟨info, front ++ entry :: back⟩ ∧
      entry.Tells (new.toActivity id now)

/-- **That an activity is cancelled**, as clients see it: at most its entry on the timeline of its
object changes, and nothing of it but whether and when it is cancelled. -/
structure IsCancelled (s s' : Store) (activity : Activity) (now : Timestamp) : Prop where
  log : ∃ rows, s.rows? Activity = some rows ∧
    s'.rows? Activity = some (rows.map (Activity.cancelling activity.id now))
  others : ∀ resolvers request, request.objectId ≠ activity.originalObjectId →
    ofRequest resolvers request s' = ofRequest resolvers request s
  own : ∀ resolvers request, ofRequest resolvers request s' = ofRequest resolvers request s ∨
    ∃ info front entry back,
      ofRequest resolvers request s = .ok ⟨info, front ++ entry :: back⟩ ∧
      entry.activityId = activity.id ∧
      ofRequest resolvers request s' = .ok ⟨info, front ++ entry.cancel now :: back⟩

/-- The kind of a recorded activity is the one it was recorded with. -/
theorem kind?_toActivity (new : NewActivity) (id : String) (now : Timestamp) :
    (new.toActivity id now).kind? = some new.kind :=
  ActivityKind.ofCode?_code new.kind

/-- What a recorded activity has on a timeline. -/
theorem entriesOf_toActivity (resolvers : Resolvers) (objectId : String) (showVote : Bool)
    (new : NewActivity) (id : String) (now : Timestamp) :
    entriesOf resolvers objectId showVote [new.toActivity id now] =
      if new.originalObjectId = objectId ∧ (showVote = true ∨ new.kind.isVote = false) then
        (entryOf? resolvers (new.toActivity id now)).toList
      else [] := by
  have hvote : (new.toActivity id now).isVote = new.kind.isVote := by
    rw [Bool.eq_iff_iff, Activity.isVote_iff]
    simp [kind?_toActivity]
  rw [entriesOf, Activity.onTimeline_singleton, hvote, apply_ite (List.filterMap _)]
  rfl

/-- A recorded activity has an entry exactly if its kind has a label. -/
theorem entryOf?_toActivity_eq_none_iff {new : NewActivity} {id : String} {now : Timestamp} :
    entryOf? resolvers (new.toActivity id now) = none ↔ new.kind.label? = none := by
  simp [entryOf?, caption?, kind?_toActivity]

/-- **Recording an activity**, as clients see it. -/
theorem isRecorded_of_concat {new : NewActivity} {id : String} {now : Timestamp}
    (hrows : s.rows? Activity = some rows)
    (hrows' : s'.rows? Activity = some (rows ++ [new.toActivity id now])) :
    IsRecorded s s' id now new where
  log := ⟨rows, hrows, hrows'⟩
  others resolvers request hother := by
    refine ofRequest_congr hrows hrows' (entriesOf_concat_of_nil ?_ rows)
    rw [entriesOf_toActivity, if_neg fun h => hother h.1.symm]
  hidden resolvers request hhidden := by
    refine ofRequest_congr hrows hrows' (entriesOf_concat_of_nil ?_ rows)
    rw [entriesOf_toActivity]
    rcases hhidden with hlabel | ⟨hshow, hvote⟩
    · rw [entryOf?_toActivity_eq_none_iff.mpr hlabel, Option.toList_none, ite_self]
    · rw [if_neg (by simp [hshow, hvote])]
  shown resolvers showVote info hid hinfo hlabel hvote := by
    obtain ⟨front, back, hbefore, hafter⟩ := entriesOf_concat resolvers new.originalObjectId
      showVote rows (new.toActivity id now)
    have hsome : entryOf? resolvers (new.toActivity id now) ≠ none :=
      mt entryOf?_toActivity_eq_none_iff.mp hlabel
    obtain ⟨entry, hentry⟩ := Option.ne_none_iff_exists'.mp hsome
    have hon : showVote = true ∨ new.kind.isVote = false := by
      cases showVote with
      | true => exact .inl rfl
      | false => exact .inr (hvote rfl)
    rw [entriesOf_toActivity, if_pos ⟨rfl, hon⟩, hentry, Option.toList_some, List.append_assoc,
      List.singleton_append] at hafter
    refine ⟨front, entry, back, ?_, ?_, tells_of_entryOf? hentry⟩
    · rw [ofRequest_eq_ok hrows hid hinfo, hbefore]
    · rw [ofRequest_eq_ok hrows' hid hinfo, hafter]

/-- **Cancelling an activity**, as clients see it. -/
theorem isCancelled_of_map {a : Activity} {now : Timestamp} (hrows : s.rows? Activity = some rows)
    (hrows' : s'.rows? Activity = some (rows.map (Activity.cancelling a.id now)))
    (hids : (rows.map Activity.id).Nodup) (ha : a ∈ rows) : IsCancelled s s' a now where
  log := ⟨rows, hrows, hrows'⟩
  others resolvers request hother := by
    refine ofRequest_congr hrows hrows' ?_
    rw [entriesOf_map_cancelling]
    refine (List.map_congr_left fun entry hentry => if_neg fun hid => ?_).trans (List.map_id _)
    -- an entry with the id would tell of the same activity, which is of another object
    obtain ⟨b, hb, hobject, htells⟩ := exists_mem_of_mem_entriesOf hentry
    obtain rfl : b = a := List.inj_on_of_nodup_map hids hb ha (htells.activityId.symm.trans hid)
    exact hother hobject.symm
  own resolvers request := by
    have hnodup :=
      (isListing_onTimeline resolvers rows request.objectId request.showVote).nodup hids
    have hafter :=
      entriesOf_map_cancelling resolvers request.objectId request.showVote a.id now rows
    rcases Keyed.map_ite_key hnodup a.id (TimelineEntry.cancel now) with
      hsame | ⟨front, entry, back, hbefore, hid, hchanged⟩
    · exact .inl (ofRequest_congr hrows hrows' (hafter.trans hsame))
    · rw [ofRequest_eq_map hrows, ofRequest_eq_map hrows', hafter]
      cases subject resolvers request with
      | error e => exact .inl rfl
      | ok info =>
          refine .inr ⟨info, front, entry, back, ?_, hid, ?_⟩
          · exact congrArg (fun entries => Except.ok (Timeline.mk info entries)) hbefore
          · exact congrArg (fun entries => Except.ok (Timeline.mk info entries)) hchanged

/-- A step of the log keeps the ids that a timeline lists, in their order. -/
theorem sublist_of_logStep (h : Activity.LogStep rows rows') (resolvers : Resolvers)
    (objectId : String) (showVote : Bool) :
    ((entriesOf resolvers objectId showVote rows).map TimelineEntry.activityId).Sublist
      ((entriesOf resolvers objectId showVote rows').map TimelineEntry.activityId) := by
  cases h with
  | same => exact List.Sublist.refl _
  | recorded id now new hfresh =>
      obtain ⟨front, back, hbefore, hafter⟩ := entriesOf_concat resolvers objectId showVote rows
        (new.toActivity id now)
      rw [hbefore, hafter]
      exact ((List.sublist_append_left _ _).append_right back).map TimelineEntry.activityId
  | cancelled id now =>
      have hid (entry : TimelineEntry) : (if entry.activityId = id then entry.cancel now
          else entry).activityId = entry.activityId :=
        (apply_ite TimelineEntry.activityId _ _ _).trans (ite_self _)
      rw [entriesOf_map_cancelling, List.map_map]
      exact (List.map_congr_left fun entry _ => (hid entry).symm) ▸ List.Sublist.refl _

/-- **What a timeline lists stays listed**, in its order, wherever users and comments are looked
up. -/
theorem sublist_of_logSteps (h : Activity.LogSteps rows rows') (resolvers resolvers' : Resolvers)
    (objectId : String) (showVote : Bool) :
    ((entriesOf resolvers objectId showVote rows).map TimelineEntry.activityId).Sublist
      ((entriesOf resolvers' objectId showVote rows').map TimelineEntry.activityId) := by
  induction h with
  | refl =>
      -- which activities have an entry does not depend on the look-ups
      rw [entriesOf, entriesOf, map_activityId_filterMap, map_activityId_filterMap]
  | tail _ hstep ih => exact ih.trans (sublist_of_logStep hstep resolvers' objectId showVote)

/-- **The log only grows, and so do timelines.** At two moments of any run, whatever calls it is
made of and whatever their clocks read, all that the log holds at the first it holds at the second,
with at most a cancellation, and the timeline of an object lists at the second what it listed at
the first, in the same order. At every moment an activity under a new id can be recorded, which is
an entry more on the timeline of its object, and one that is recorded can be cancelled, which
changes that entry; cancelling what is not there changes nothing. -/
theorem afterCalls_appendOnly (before after : List ((α : Type) × Call α)) :
    ∃ s s' rows rows', s = Store.afterCalls before ∧ s' = Store.afterCalls (before ++ after) ∧
      s.rows? Activity = some rows ∧ s'.rows? Activity = some rows' ∧
      Activity.IsLog rows' ∧ Activity.Extends rows rows' ∧
      (∀ resolvers resolvers' objectId info info' showVote, objectId ≠ "" →
        resolvers.object objectId = .ok info → resolvers'.object objectId = .ok info' →
        ∃ entries entries', ofRequest resolvers ⟨objectId, showVote⟩ s = .ok ⟨info, entries⟩ ∧
          ofRequest resolvers' ⟨objectId, showVote⟩ s' = .ok ⟨info', entries'⟩ ∧
          (entries.map TimelineEntry.activityId).Sublist
            (entries'.map TimelineEntry.activityId)) ∧
      (∀ id now new, (∀ a ∈ rows', a.id ≠ id) →
        ∃ t, s'.createActivity id now new = (.ok (new.toActivity id now), t) ∧
          IsRecorded s' t id now new) ∧
      (∀ a ∈ rows', ∀ now, ∃ t, s'.cancelActivity a.id now = (.ok (), t) ∧
        IsCancelled s' t a now) ∧
      ∀ id, (∀ a ∈ rows', a.id ≠ id) → ∀ now, s'.cancelActivity id now = (.ok (), s') := by
  obtain ⟨rows, rows', hrows, hrows', hlog, hsteps⟩ := Store.rows?_activity_after before after
  have hlog' := hsteps.isLog hlog
  refine ⟨_, _, rows, rows', rfl, rfl, hrows, hrows', hlog', hsteps.toExtends, ?_, ?_, ?_, ?_⟩
  · intro resolvers resolvers' objectId info info' showVote hid hinfo hinfo'
    exact ⟨_, _, ofRequest_eq_ok hrows hid hinfo showVote,
      ofRequest_eq_ok hrows' hid hinfo' showVote,
      sublist_of_logSteps hsteps resolvers resolvers' objectId showVote⟩
  · intro id now new hfresh
    rcases Store.createActivity_eq hrows' id now new with ⟨-, hcreate⟩ | ⟨⟨a, ha, hid⟩, -⟩
    · exact ⟨_, hcreate, isRecorded_of_concat hrows' (Store.rows?_withRows hrows' _)⟩
    · exact absurd hid (hfresh a ha)
  · intro a ha now
    exact ⟨_, Store.cancelActivity_eq hrows' a.id now,
      isCancelled_of_map hrows' (Store.rows?_withRows hrows' _) hlog'.ids ha⟩
  · intro id habsent now
    exact Store.cancelActivity_of_absent hrows' habsent now

/-- A second after the beginning of 1970. -/
def secondAfter : Timestamp := ⟨⟨1970, 1, 1, 0, 0, 1, 0, 0⟩, by decide⟩

/-- That a question was asked. -/
def asked : NewActivity := ⟨"u1", "q1", "q1", .questionAsked, none⟩

/-- That the question was answered. -/
def answered : NewActivity := ⟨"u1", "r1", "q1", .answerAnswered, none⟩

/-- The question, the answer by a clock that runs a second behind, and that the question is
cancelled. -/
def backwards : List ((α : Type) × Call α) × List ((α : Type) × Call α) :=
  ([⟨_, .createActivity "a1" secondAfter asked⟩],
   [⟨_, .createActivity "a2" .epoch answered⟩, ⟨_, .cancelActivity "a1" .epoch⟩])

/-- What is recorded later is listed first if the clock ran backwards. -/
theorem afterCalls_appendOnly_backwards :
    ∃ entries entries' : List TimelineEntry,
      ofRequest anonymousQuestion ⟨"q1", true⟩ (Store.afterCalls backwards.1) =
        .ok ⟨⟨"Why?", .question, none, none⟩, entries⟩ ∧
      ofRequest anonymousQuestion ⟨"q1", true⟩ (Store.afterCalls (backwards.1 ++ backwards.2)) =
        .ok ⟨⟨"Why?", .question, none, none⟩, entries'⟩ ∧
      (entries.map TimelineEntry.activityId).Sublist (entries'.map TimelineEntry.activityId) ∧
      entries.map TimelineEntry.activityId = ["a1"] ∧
      entries'.map TimelineEntry.activityId = ["a2", "a1"] := by
  obtain ⟨_, _, rows, rows', rfl, rfl, hrows, hrows', -, -, hlists, -⟩ :=
    afterCalls_appendOnly backwards.1 backwards.2
  obtain ⟨entries, entries', hbefore, hafter, hsublist⟩ := hlists anonymousQuestion
    anonymousQuestion "q1" ⟨"Why?", .question, none, none⟩ ⟨"Why?", .question, none, none⟩ true
    (by decide) rfl rfl
  refine ⟨entries, entries', hbefore, hafter, hsublist, ?_, ?_⟩
  · obtain rfl : [asked.toActivity "a1" secondAfter] = rows := Option.some.inj hrows
    rw [ofRequest_eq_ok hrows (by decide) rfl] at hbefore
    obtain ⟨-, rfl⟩ := Timeline.mk.inj (Except.ok.inj hbefore)
    cbv
  · let cancelled := (asked.toActivity "a1" secondAfter).cancelling "a1" .epoch
    let earlier := answered.toActivity "a2" .epoch
    obtain rfl : [cancelled, earlier] = rows' := Option.some.inj hrows'
    have hsorted : Activity.onTimeline "q1" true [cancelled, earlier] = [earlier, cancelled] :=
      Sorting.mergeSort_eq_of_pairwise Activity.notAfter_trans Activity.notAfter_total (by decide)
        (by decide +kernel)
    rw [ofRequest_eq_ok hrows' (by decide) rfl, entriesOf, hsorted] at hafter
    obtain ⟨-, rfl⟩ := Timeline.mk.inj (Except.ok.inj hafter)
    rfl

end Timeline

end TagTimeline
