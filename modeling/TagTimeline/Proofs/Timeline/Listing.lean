import Mathlib
import TagTimeline.Activity.Timeline
import TagTimeline.Proofs.StableSort
import TagTimeline.Proofs.Time.Order

/-!
# What a Timeline Lists

A timeline drops activities in two places: votes that are not wanted are left out by their codes
when the table is read, and the receiving side of votes and acceptances by its missing label when
entries are made. This module says of the two together which activities are listed, in what order,
and what an entry tells of its activity.

## Main results

* `Timeline.ofRequest_lists` — a timeline lists the shown activities of its object, each in one
  entry, in the order of time and id; without votes it is the timeline with votes less its votes.
-/

namespace TagTimeline

open Time

namespace ActivityKind

/-- **A code is one of votes** exactly if it is that of a kind that is a vote. -/
theorem mem_voteCodes_iff_ofCode? {code : Int32} :
    code ∈ voteCodes ↔ ∃ kind, ofCode? code = some kind ∧ kind.isVote = true := by
  constructor
  · intro h
    obtain ⟨kind, hkind, rfl⟩ := List.mem_map.mp h
    exact ⟨kind, ofCode?_code kind, (List.mem_filter.mp hkind).2⟩
  · rintro ⟨kind, hkind, hvote⟩
    rw [← code_of_ofCode? hkind]
    exact (mem_voteCodes_iff kind).mpr hvote

/-- How a timeline calls what an activity did: votes by the vote, all else by its own name. -/
def displayed : String → String
  | "vote_up" => "upvote"
  | "vote_down" => "downvote"
  | verb => verb

/-- What the receiving side of votes and acceptances is recorded as. -/
def receivedVerbs : List String := ["voted_up", "voted_down", "accepted"]

/-- What votes are recorded as. -/
def voteVerbs : List String := ["vote_up", "vote_down"]

/-- How votes are called on a timeline. -/
def voteLabels : List String := ["upvote", "downvote"]

/-- A kind has no label exactly if it is of the receiving side, and else is called by it. -/
theorem label?_eq (kind : ActivityKind) :
    kind.label? = if kind.verb ∈ receivedVerbs then none else some (displayed kind.verb) := by
  cases kind <;> decide

/-- Votes are told from everything else by their label alone. -/
theorem displayed_mem_voteLabels (kind : ActivityKind) :
    displayed kind.verb ∈ voteLabels ↔ kind.isVote = true := by
  cases kind <;> decide

/-- A kind is a vote exactly by what it is recorded as. -/
theorem isVote_iff (kind : ActivityKind) : kind.isVote = true ↔ kind.verb ∈ voteVerbs := by
  simp [isVote, voteVerbs]

end ActivityKind

namespace Activity

/-- **Whether a timeline shows an activity**: its kind is unknown, or is not of the receiving side
of a vote or acceptance, nor a vote unless votes are wanted. -/
def IsShown (showVote : Bool) (activity : Activity) : Prop :=
  ∀ kind, activity.kind? = some kind →
    kind.verb ∉ ActivityKind.receivedVerbs ∧ (showVote = false → kind.verb ∉ ActivityKind.voteVerbs)

instance (showVote : Bool) (activity : Activity) : Decidable (activity.IsShown showVote) :=
  match h : activity.kind? with
  | none => isTrue fun kind hkind => by simp [h] at hkind
  | some kind =>
      decidable_of_iff
        (kind.verb ∉ ActivityKind.receivedVerbs ∧
          (showVote = false → kind.verb ∉ ActivityKind.voteVerbs))
        ⟨fun hshown kind' hkind => by
            obtain rfl : kind = kind' := Option.some.inj (h.symm.trans hkind)
            exact hshown,
          fun hshown => hshown kind h⟩

/-- Whether an activity is a vote. -/
def isVote (activity : Activity) : Bool := ActivityKind.voteCodes.contains activity.activityType

/-- An activity is a vote exactly if its kind is. -/
theorem isVote_iff {activity : Activity} :
    activity.isVote = true ↔ ∃ kind, activity.kind? = some kind ∧ kind.isVote = true := by
  rw [isVote, List.contains_iff_mem]
  exact ActivityKind.mem_voteCodes_iff_ofCode?

/-- `notAfter` is transitive. -/
theorem notAfter_trans (a b c : Activity) (hab : notAfter a b = true) (hbc : notAfter b c = true) :
    notAfter a c = true :=
  Timestamp.orderedWith_trans hab hbc

/-- Of two activities one does not come after the other. -/
theorem notAfter_total (a b : Activity) : (notAfter a b || notAfter b a) = true :=
  Timestamp.orderedWith_total _ _ _ _

/-- The activities of an object with votes are all of them in the order of the timeline. -/
theorem onTimeline_true (objectId : String) (rows : List Activity) :
    onTimeline objectId true rows =
      (rows.filter fun a => a.originalObjectId == objectId).mergeSort notAfter := by
  simp [onTimeline]

/-- **Votes that are not wanted** are left out of the activities with votes. -/
theorem onTimeline_false (objectId : String) (rows : List Activity) :
    onTimeline objectId false rows =
      (onTimeline objectId true rows).filter fun a => !a.isVote := by
  rw [onTimeline_true, Sorting.filter_mergeSort notAfter_trans notAfter_total, List.filter_filter]
  simp only [onTimeline, isVote, Bool.false_or, Bool.and_comm]

/-- The order of a timeline: by time as times are stored, and by id among the same time. -/
def Precedes (a b : Activity) : Prop :=
  a.createdAt.notAfter b.createdAt = true ∧
    (b.createdAt.notAfter a.createdAt = true → a.id ≤ b.id)

/-- The order by instant, and by id among the same instant. -/
def PrecedesInTime (a b : Activity) : Prop :=
  a.createdAt.notLater b.createdAt = true ∧
    (b.createdAt.notLater a.createdAt = true → a.id ≤ b.id)

/-- The activities of an object are in the order of the timeline. -/
theorem pairwise_onTimeline (objectId : String) (showVote : Bool) (rows : List Activity) :
    (onTimeline objectId showVote rows).Pairwise Precedes :=
  (List.pairwise_mergeSort notAfter_trans notAfter_total _).imp
    fun h => Timestamp.orderedWith_iff.mp h

/-- Where times have one offset the order of a timeline is that of instants. -/
theorem precedesInTime_of_precedes {a b : Activity} {offset : Int}
    (ha : a.createdAt.IsPlainAt offset) (hb : b.createdAt.IsPlainAt offset) (h : Precedes a b) :
    PrecedesInTime a b := by
  rw [PrecedesInTime, ← Timestamp.notAfter_eq_notLater ha hb,
    ← Timestamp.notAfter_eq_notLater hb ha]
  exact h

end Activity

/-- **What an entry tells of its activity.** -/
structure TimelineEntry.Tells (entry : TimelineEntry) (activity : Activity) : Prop where
  activityId : entry.activityId = activity.id
  revisionId : entry.revisionId = activity.revisionId
  objectId : entry.objectId = activity.objectId
  createdAt : entry.createdAt = activity.createdAt.unixSeconds
  cancelled : entry.cancelled = activity.cancelled
  cancelledAt : entry.cancelledAt =
    if activity.cancelled then activity.cancelledAt.map Timestamp.unixSeconds else none
  ofUnknown : activity.kind? = none → entry.objectType = "" ∧ entry.activityType = ""
  ofKnown : ∀ kind, activity.kind? = some kind →
    entry.objectType = kind.objectKind.name ∧
      entry.activityType = ActivityKind.displayed kind.verb

namespace Timeline

section

variable {resolvers : Resolvers}

/-- An entry tells of the activity that it is made of. -/
theorem tells_of_entryOf? {activity : Activity} {entry : TimelineEntry}
    (h : entryOf? resolvers activity = some entry) : entry.Tells activity := by
  obtain ⟨⟨objectType, label⟩, hcaption, rfl⟩ := Option.map_eq_some_iff.mp h
  refine ⟨rfl, rfl, rfl, rfl, rfl, rfl, fun hkind => ?_, fun kind hkind => ?_⟩
  · simp only [caption?, hkind, Option.some.injEq, Prod.mk.injEq] at hcaption
    exact ⟨hcaption.1.symm, hcaption.2.symm⟩
  · simp only [caption?, hkind, ActivityKind.label?_eq] at hcaption
    split at hcaption
    · simp at hcaption
    · simp only [Option.map_some, Option.some.injEq, Prod.mk.injEq] at hcaption
      exact ⟨hcaption.1.symm, hcaption.2.symm⟩

/-- An activity has an entry exactly if a timeline with votes shows it. -/
theorem isSome_entryOf? {activity : Activity} :
    (entryOf? resolvers activity).isSome = true ↔ activity.IsShown true := by
  rw [entryOf?, Option.isSome_map, Activity.IsShown]
  cases hkind : activity.kind? with
  | none => simp [caption?, hkind]
  | some kind =>
      simp only [caption?, hkind, ActivityKind.label?_eq]
      by_cases hverb : kind.verb ∈ ActivityKind.receivedVerbs <;> simp [hverb]

/-- **Entries of votes** are told by their labels. -/
theorem mem_voteLabels_iff {activity : Activity} {entry : TimelineEntry}
    (h : entryOf? resolvers activity = some entry) :
    entry.activityType ∈ ActivityKind.voteLabels ↔ activity.isVote = true := by
  have htells := tells_of_entryOf? h
  rw [Activity.isVote_iff]
  cases hkind : activity.kind? with
  | none => simp [(htells.ofUnknown hkind).2, ActivityKind.voteLabels]
  | some kind =>
      rw [(htells.ofKnown kind hkind).2, ActivityKind.displayed_mem_voteLabels]
      simp

end

/-- **Entries made of some activities** are made of those that have one, one after the other: what
holds of an entry and its activity holds of both lists. -/
theorem forall₂_of_entryOf? {resolvers : Resolvers} {R : TimelineEntry → Activity → Prop}
    (h : ∀ a entry, entryOf? resolvers a = some entry → R entry a) (activities : List Activity) :
    List.Forall₂ R (activities.filterMap (entryOf? resolvers))
      (activities.filter fun a => a.IsShown true) := by
  induction activities with
  | nil => exact List.Forall₂.nil
  | cons a activities ih =>
      have hshown := @isSome_entryOf? resolvers a
      cases hentry : entryOf? resolvers a with
      | none =>
          rw [hentry, Option.isSome_none] at hshown
          rw [List.filterMap_cons_none hentry, List.filter_cons_of_neg (by simpa using hshown)]
          exact ih
      | some entry =>
          rw [hentry, Option.isSome_some] at hshown
          rw [List.filterMap_cons_some hentry, List.filter_cons_of_pos (by simpa using hshown)]
          exact List.Forall₂.cons (h a entry hentry) ih

/-- Entries made of some activities tell of those that have one, one after the other. -/
theorem forall₂_tells (resolvers : Resolvers) (activities : List Activity) :
    List.Forall₂ TimelineEntry.Tells (activities.filterMap (entryOf? resolvers))
      (activities.filter fun a => a.IsShown true) :=
  forall₂_of_entryOf? (fun _ _ hentry => tells_of_entryOf? hentry) activities

/-- The ids of entries made of some activities are those of the activities that have one. -/
theorem map_activityId_filterMap (resolvers : Resolvers) (activities : List Activity) :
    (activities.filterMap (entryOf? resolvers)).map TimelineEntry.activityId =
      (activities.filter fun a => a.IsShown true).map Activity.id :=
  List.forall₂_eq_eq_eq ▸ List.forall₂_map_left_iff.mpr (List.forall₂_map_right_iff.mpr
    ((forall₂_tells resolvers activities).imp fun _ _ h => h.activityId))

/-- The activities read for a timeline that have an entry are those that it shows. -/
theorem filter_onTimeline_perm (objectId : String) (showVote : Bool) (rows : List Activity) :
    ((Activity.onTimeline objectId showVote rows).filter fun a => a.IsShown true).Perm
      (rows.filter fun a => a.originalObjectId = objectId ∧ a.IsShown showVote) := by
  have hperm := (List.mergeSort_perm (rows.filter fun a =>
    a.originalObjectId == objectId && (showVote || !a.isVote)) Activity.notAfter).filter
      fun a => decide (a.IsShown true)
  rw [List.filter_filter] at hperm
  refine hperm.trans (List.Perm.of_eq (List.filter_congr fun a _ => ?_))
  rw [Bool.eq_iff_iff]
  simp only [Bool.and_eq_true, decide_eq_true_eq, beq_iff_eq, Bool.or_eq_true, Bool.not_eq_true']
  cases showVote with
  | true =>
      simp only [true_or, and_true]
      exact and_comm
  | false =>
      have hvote : a.isVote = false ↔
          ∀ kind, a.kind? = some kind → kind.verb ∉ ActivityKind.voteVerbs := by
        rw [← Bool.not_eq_true, Activity.isVote_iff]
        simp only [ActivityKind.isVote_iff, not_exists, not_and]
      simp only [Activity.IsShown, reduceCtorEq, false_or, hvote, false_implies, and_true,
        true_implies]
      exact ⟨fun ⟨h, ho, hv⟩ => ⟨ho, fun kind hkind => ⟨h kind hkind, hv kind hkind⟩⟩,
        fun ⟨ho, h⟩ => ⟨fun kind hkind => (h kind hkind).1, ho,
          fun kind hkind => (h kind hkind).2⟩⟩

/-- **Entries that list the activities of an object** out of a table of activities. -/
structure IsListing (rows : List Activity) (objectId : String) (showVote : Bool)
    (listed : List Activity) (entries : List TimelineEntry) : Prop where
  /-- Each entry tells of an activity of its own. -/
  tells : List.Forall₂ TimelineEntry.Tells entries listed
  /-- The shown activities of the object are listed, each as often as the table has it. -/
  perm : listed.Perm (rows.filter fun a => a.originalObjectId = objectId ∧ a.IsShown showVote)
  /-- No activity is listed twice in a table with its primary key. -/
  nodup : (rows.map Activity.id).Nodup → (entries.map TimelineEntry.activityId).Nodup
  /-- They are in ascending order of the times, as they are stored, and ids. -/
  ascending : listed.Pairwise Activity.Precedes
  /-- Where all times have one offset, as those that are stored in UTC do, and a year of four
  digits, that is the order of the instants. -/
  chronological : ∀ offset, (∀ a ∈ rows, a.createdAt.IsPlainAt offset) →
    listed.Pairwise Activity.PrecedesInTime

/-- The entries made of the activities read for a timeline list the activities of its object. -/
theorem isListing_onTimeline (resolvers : Resolvers) (rows : List Activity) (objectId : String)
    (showVote : Bool) :
    IsListing rows objectId showVote
      ((Activity.onTimeline objectId showVote rows).filter fun a => a.IsShown true)
      ((Activity.onTimeline objectId showVote rows).filterMap (entryOf? resolvers)) := by
  have htells := forall₂_tells resolvers (Activity.onTimeline objectId showVote rows)
  have hperm := filter_onTimeline_perm objectId showVote rows
  have hascending := (Activity.pairwise_onTimeline objectId showVote rows).sublist
    (List.filter_sublist (p := fun a => decide (a.IsShown true)))
  refine ⟨htells, hperm, fun hkeys => ?_, hascending, fun offset hplain => ?_⟩
  · rw [map_activityId_filterMap, (hperm.map Activity.id).nodup_iff]
    exact hkeys.sublist (List.filter_sublist.map Activity.id)
  · have hrows : ∀ a ∈ (Activity.onTimeline objectId showVote rows).filter
        fun a => a.IsShown true, a ∈ rows :=
      fun a ha => List.mem_of_mem_filter (hperm.mem_iff.mp ha)
    exact hascending.imp_of_mem fun ha hb h =>
      Activity.precedesInTime_of_precedes (hplain _ (hrows _ ha)) (hplain _ (hrows _ hb)) h

/-- The entries without votes are those with votes less the entries of votes. -/
theorem filterMap_onTimeline_false (resolvers : Resolvers) (rows : List Activity)
    (objectId : String) :
    (Activity.onTimeline objectId false rows).filterMap (entryOf? resolvers) =
      ((Activity.onTimeline objectId true rows).filterMap (entryOf? resolvers)).filter
        fun entry => entry.activityType ∉ ActivityKind.voteLabels := by
  rw [Activity.onTimeline_false]
  induction Activity.onTimeline objectId true rows with
  | nil => rfl
  | cons a activities ih =>
      cases hentry : entryOf? resolvers a with
      | none =>
          rw [List.filterMap_cons_none hentry, ← ih]
          by_cases hvote : a.isVote = true <;> simp [hvote, hentry]
      | some entry =>
          have hlabel := mem_voteLabels_iff hentry
          rw [List.filterMap_cons_some hentry]
          by_cases hvote : a.isVote = true
          · rw [List.filter_cons_of_neg (by simp [hvote]),
              List.filter_cons_of_neg (by simp [hlabel, hvote]), ih]
          · rw [List.filter_cons_of_pos (by simp [hvote]), List.filterMap_cons_some hentry,
              List.filter_cons_of_pos (by simp [hlabel, hvote]), ih]

/-- **A timeline lists exactly the shown activities of its object.** It never fails for an object
that can be looked up, whatever users and comments are answered; and leaving votes out by their
codes is leaving them out by their labels. -/
theorem ofRequest_lists {resolvers : Resolvers} {s : Store} {rows : List Activity}
    {objectId : String} {info : ObjectInfo}
    (hrows : s.rows? Activity = some rows) (hid : objectId ≠ "")
    (hinfo : resolvers.object objectId = .ok info) :
    ∃ entries : Bool → List TimelineEntry,
      (∀ showVote, ofRequest resolvers ⟨objectId, showVote⟩ s = .ok ⟨info, entries showVote⟩ ∧
        ∃ listed, IsListing rows objectId showVote listed (entries showVote)) ∧
      entries false =
        (entries true).filter fun entry => entry.activityType ∉ ActivityKind.voteLabels := by
  refine ⟨fun showVote => (Activity.onTimeline objectId showVote rows).filterMap
      (entryOf? resolvers),
    fun showVote => ⟨?_, _, isListing_onTimeline resolvers rows objectId showVote⟩,
    filterMap_onTimeline_false resolvers rows objectId⟩
  have hnone : (TimelineRequest.mk objectId showVote).violations = [] := by
    simp [TimelineRequest.violations, Violation.checkNotEmpty, hid]
  have hread : s.activitiesOf objectId showVote =
      .ok (Activity.onTimeline objectId showVote rows) :=
    Store.select_ok_iff.mpr ⟨rows, hrows, rfl⟩
  simp only [ofRequest, hnone, hinfo, hread]
  rfl

/-- Activities of one time on a question: a vote, an activity of an unknown kind and an accepted
answer; and one of another question. -/
def mixedActivities : List Activity :=
  let vote : Activity :=
    ⟨"a1", "u1", "q1", "q1", ActivityKind.questionVoteUp.code, none, false, none, .epoch⟩
  [vote, { vote with id := "a0", activityType := 999 },
    { vote with id := "a2", activityType := ActivityKind.answerAccepted.code },
    { vote with id := "a3", originalObjectId := "q2" }]

/-- A question whose user and comments cannot be told. -/
def anonymousQuestion : Resolvers where
  object _ := .ok ⟨"Why?", .question, none, none⟩
  user id := .error (.internal id)
  comment id := .error (.notFound id)

/-- The store with these activities. -/
def mixedStore : Store := { Store.empty with activities := some ⟨mixedActivities, []⟩ }

/-- The timeline of the question lists the unknown activity and, on request, the vote behind it. -/
theorem ofRequest_lists_mixed :
    ∃ entries : Bool → List TimelineEntry,
      (∀ showVote, ofRequest anonymousQuestion ⟨"q1", showVote⟩ mixedStore =
          .ok ⟨⟨"Why?", .question, none, none⟩, entries showVote⟩ ∧
        ∃ listed, IsListing mixedActivities "q1" showVote listed (entries showVote)) ∧
      (entries true).map TimelineEntry.activityId = ["a0", "a1"] ∧
      (entries false).map TimelineEntry.activityId = ["a0"] := by
  obtain ⟨entries, hlists, -⟩ := @ofRequest_lists anonymousQuestion mixedStore mixedActivities "q1"
    ⟨"Why?", .question, none, none⟩ rfl (by decide) rfl
  have hwith : (ofRequest anonymousQuestion ⟨"q1", true⟩ mixedStore).map
      (fun timeline => timeline.entries.map TimelineEntry.activityId) = .ok ["a0", "a1"] := by
    cbv
  have hwithout : (ofRequest anonymousQuestion ⟨"q1", false⟩ mixedStore).map
      (fun timeline => timeline.entries.map TimelineEntry.activityId) = .ok ["a0"] := by
    cbv
  rw [(hlists true).1] at hwith
  rw [(hlists false).1] at hwithout
  exact ⟨entries, hlists, Except.ok.inj hwith, Except.ok.inj hwithout⟩

end Timeline

end TagTimeline
