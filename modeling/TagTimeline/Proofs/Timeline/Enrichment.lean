import TagTimeline.Proofs.Timeline.Listing

/-!
# Enriching a Timeline

An entry of a timeline is enriched with what is known elsewhere: the names of the user who acted
and the text of a comment that was acted on. A look-up that fails, or that knows nobody, leaves its
part of its entry empty. So the history itself, which entries there are, in what order and what
they tell of their activities, does not depend on users and comments at all, and what is added to
an entry depends on the look-ups for its own activity only.

## Main results

* `Timeline.map_history_entryOf?` — the history in an entry, whatever is looked up.
* `Timeline.ofRequest_cases` — what a timeline is made of, or why there is none.
* `Timeline.ofRequest_history_eq` — two calls that look up users and comments in different places
  answer the same history or fail alike.
-/

namespace TagTimeline

namespace TimelineEntry

/-- **The history in an entry**: all of it but the names of the user and the text of the comment. -/
def history (entry : TimelineEntry) : TimelineEntry :=
  { entry with username := "", userDisplayName := "", comment := "" }

end TimelineEntry

namespace Activity

/-- Whether an activity is of a kind that acts on comments. -/
def IsOnComment (activity : Activity) : Prop :=
  ∃ kind, activity.kind? = some kind ∧ kind.objectKind = .comment

end Activity

/-- **What look-ups add to the entry of an activity**: the names of its user, if there is one, and
the text of its comment, if it is one that can be found. -/
structure TimelineEntry.IsEnriched (user : String → Except ServiceError (Option UserProfile))
    (comment : String → Except ServiceError Comment) (entry : TimelineEntry)
    (activity : Activity) : Prop where
  ofUser : ∀ profile, user activity.userId = .ok (some profile) →
    entry.username = profile.username ∧ entry.userDisplayName = profile.displayName
  ofNobody : (∀ profile, user activity.userId ≠ .ok (some profile)) →
    entry.username = "" ∧ entry.userDisplayName = ""
  ofComment : activity.IsOnComment → ∀ found, comment activity.objectId = .ok found →
    entry.comment = found.parsedText
  ofLostComment : ∀ e, comment activity.objectId = .error e → entry.comment = ""
  ofOther : ¬ activity.IsOnComment → entry.comment = ""

namespace Timeline

/-- The name of comments is that of no other kind of object. -/
theorem name_eq_comment_iff (kind : ObjectKind) :
    kind.name = ObjectKind.comment.name ↔ kind = .comment := by
  cases kind <;> decide

section

variable {resolvers : Resolvers} {activity : Activity} {entry : TimelineEntry}

/-- An entry is called one of a comment exactly if its activity acts on comments. -/
theorem objectType_eq_comment_iff (h : entryOf? resolvers activity = some entry) :
    entry.objectType = ObjectKind.comment.name ↔ activity.IsOnComment := by
  have htells := tells_of_entryOf? h
  cases hkind : activity.kind? with
  | none =>
      rw [(htells.ofUnknown hkind).1]
      refine iff_of_false (by decide) ?_
      rintro ⟨kind, hkind', -⟩
      exact Option.some_ne_none kind (hkind'.symm.trans hkind)
  | some kind =>
      rw [(htells.ofKnown kind hkind).1, name_eq_comment_iff, Activity.IsOnComment]
      constructor
      · intro hcomment
        exact ⟨kind, hkind, hcomment⟩
      · rintro ⟨kind', hkind', hcomment⟩
        obtain rfl : kind = kind' := Option.some.inj (hkind.symm.trans hkind')
        exact hcomment

/-- **An entry is enriched** by the look-ups for its own activity. -/
theorem isEnriched_of_entryOf? (h : entryOf? resolvers activity = some entry) :
    entry.IsEnriched resolvers.user resolvers.comment activity := by
  have hcomment := objectType_eq_comment_iff h
  obtain ⟨⟨objectType, label⟩, -, rfl⟩ := Option.map_eq_some_iff.mp h
  simp only at hcomment
  refine ⟨fun profile huser => ?_, fun hnobody => ?_, fun hon found hfound => ?_, fun e hlost => ?_,
    fun hother => ?_⟩
  · simp only [huser, userNames, and_self]
  · cases huser : resolvers.user activity.userId with
    | error e => exact ⟨rfl, rfl⟩
    | ok user? =>
        cases user? with
        | none => exact ⟨rfl, rfl⟩
        | some profile => exact absurd huser (hnobody profile)
  · simp only [if_pos (hcomment.mpr hon), hfound, commentText]
  · simp only [hlost, commentText, ite_self]
  · exact if_neg (mt hcomment.mp hother)

end

/-- **The history in an entry** is the same wherever users and comments are looked up. -/
theorem map_history_entryOf? (resolvers resolvers' : Resolvers) (activity : Activity) :
    (entryOf? resolvers activity).map TimelineEntry.history =
      (entryOf? resolvers' activity).map TimelineEntry.history := by
  rw [entryOf?, entryOf?, Option.map_map, Option.map_map]
  rfl

/-- Entries made of some activities tell the same history wherever users and comments are looked
up. -/
theorem map_history_filterMap_entryOf? (resolvers resolvers' : Resolvers)
    (activities : List Activity) :
    (activities.filterMap (entryOf? resolvers)).map TimelineEntry.history =
      (activities.filterMap (entryOf? resolvers')).map TimelineEntry.history := by
  rw [List.map_filterMap, List.map_filterMap]
  exact List.filterMap_congr fun a _ => map_history_entryOf? resolvers resolvers' a

/-- Entries made of some activities are enriched, one after the other. -/
theorem forall₂_isEnriched (resolvers : Resolvers) (activities : List Activity) :
    List.Forall₂ (TimelineEntry.IsEnriched resolvers.user resolvers.comment)
      (activities.filterMap (entryOf? resolvers)) (activities.filter fun a => a.IsShown true) :=
  forall₂_of_entryOf? (fun _ _ hentry => isEnriched_of_entryOf? hentry) activities

/-- **Whether a timeline is answered**, and of which activities its entries are made, is the same
wherever users and comments are looked up. -/
theorem ofRequest_cases (object : String → Except ServiceError ObjectInfo)
    (request : TimelineRequest) (s : Store) :
    (∃ e, ∀ user comment, ofRequest ⟨object, user, comment⟩ request s = .error e) ∨
    ∃ info rows, s.rows? Activity = some rows ∧
      ∀ user comment, ofRequest ⟨object, user, comment⟩ request s =
        .ok ⟨info, (Activity.onTimeline request.objectId request.showVote rows).filterMap
          (entryOf? ⟨object, user, comment⟩)⟩ := by
  simp only [ofRequest]
  cases hviolations : request.violations with
  | cons violation more => exact .inl ⟨refusal (violation :: more), fun _ _ => rfl⟩
  | nil =>
      cases hobject : object request.objectId with
      | error e => exact .inl ⟨e, fun _ _ => rfl⟩
      | ok info =>
          cases hread : s.activitiesOf request.objectId request.showVote with
          | error e => exact .inl ⟨e, fun _ _ => rfl⟩
          | ok activities =>
              obtain ⟨rows, hrows, rfl⟩ := Store.select_ok_iff.mp hread
              exact .inr ⟨info, rows, hrows, fun _ _ => rfl⟩

/-- **Users and comments have no part in the history.** Two calls for the same timeline that look up
users and comments in different places fail alike, or answer the same object and the same history,
entry by entry. What each of them adds to an entry is what it looks up for the activity that the
entry tells of: the names of its user, and the text of its comment if the activity is of a kind that
acts on comments. -/
theorem ofRequest_history_eq (object : String → Except ServiceError ObjectInfo)
    (user user' : String → Except ServiceError (Option UserProfile))
    (comment comment' : String → Except ServiceError Comment) (request : TimelineRequest)
    (s : Store) :
    (∃ e, ofRequest ⟨object, user, comment⟩ request s = .error e ∧
      ofRequest ⟨object, user', comment'⟩ request s = .error e) ∨
    ∃ info entries entries' rows listed,
      ofRequest ⟨object, user, comment⟩ request s = .ok ⟨info, entries⟩ ∧
      ofRequest ⟨object, user', comment'⟩ request s = .ok ⟨info, entries'⟩ ∧
      entries.map TimelineEntry.history = entries'.map TimelineEntry.history ∧
      s.rows? Activity = some rows ∧ listed ⊆ rows ∧
      List.Forall₂ TimelineEntry.Tells entries listed ∧
      List.Forall₂ (TimelineEntry.IsEnriched user comment) entries listed ∧
      List.Forall₂ (TimelineEntry.IsEnriched user' comment') entries' listed := by
  obtain ⟨e, herror⟩ | ⟨info, rows, hrows, hok⟩ := ofRequest_cases object request s
  · exact .inl ⟨e, herror user comment, herror user' comment'⟩
  · refine .inr ⟨info, _, _, rows,
      (Activity.onTimeline request.objectId request.showVote rows).filter fun a => a.IsShown true,
      hok user comment, hok user' comment', map_history_filterMap_entryOf? _ _ _, hrows,
      fun a ha => ?_, forall₂_tells _ _, forall₂_isEnriched ⟨object, user, comment⟩ _,
      forall₂_isEnriched ⟨object, user', comment'⟩ _⟩
    exact List.mem_of_mem_filter ((filter_onTimeline_perm _ _ rows).mem_iff.mp ha)

end Timeline

end TagTimeline
