import Mathlib.Data.List.Forall2
import TagTimeline.Proofs.Store.Renaming

/-!
# Reads under Other Names

Reads that ask for the same, with every id under its other name, get the same answers from a store
that differs by names and times only, with ids and times changed in the same way. Failures tell of
the same, or of what is missing by its other name.

Objects that are kept elsewhere are looked up under their other names too.

## Main results

* `Renaming.alike_tagRead` — reads of the catalog.
* `Renaming.alike_ofRequest` — timelines.
* `Renaming.alike_answer` — every read.
-/

namespace TagTimeline

open Time

namespace Renaming

variable (r : Renaming)

/-! ### What is asked for -/

/-- Look-ups of objects and comments by their other names. -/
def resolvers (resolvers : Resolvers) : Resolvers :=
  { resolvers with
    object := fun id => resolvers.object (r.id.symm id)
    comment := fun id => resolvers.comment (r.id.symm id) }

/-- A read of the catalog by other names. -/
def tagRead : TagRead → TagRead
  | .tag id => .tag (r.id id)
  | .tagAnyStatus id => .tagAnyStatus (r.id id)
  | .tagsByIds ids => .tagsByIds (ids.map r.id)
  | .tags f => .tags (r.filter f)
  | lookUp => lookUp

/-- **A read by other names.** -/
def lookUp {α : Type} : Read α → Read α
  | .tagsByIds ids tagRequired => .tagsByIds (ids.map r.id) tagRequired
  | .tagById id tagRequired => .tagById (r.id id) tagRequired
  | .tagByIdAnyStatus id tagRequired => .tagByIdAnyStatus (r.id id) tagRequired
  | .tagsWhere f tagRequired => .tagsWhere (r.filter f) tagRequired
  | .tagPage page pageSize f sort tagRequired =>
      .tagPage page pageSize (r.filter f) sort tagRequired
  | .catalog source read => .catalog source (r.tagRead read)
  | .activitiesOf objectId showVote => .activitiesOf (r.id objectId) showVote
  | .timeline resolvers request =>
      .timeline (r.resolvers resolvers) { request with objectId := r.id request.objectId }
  | .diff resolvers request =>
      .diff (r.resolvers resolvers) ⟨r.id request.oldRevisionId, r.id request.newRevisionId⟩
  | .findRevision id => .findRevision (r.id id)
  | .getRevision id => .getRevision (r.id id)
  | .revisionsOf objectId => .revisionsOf (r.id objectId)
  | lookUp => lookUp

/-! ### What is answered -/

/-- That two seconds are those of a time and of its other value. -/
def SameSecond (second second' : Int) : Prop :=
  ∃ t : Timestamp, second = t.unixSeconds ∧ second' = (r.time t).unixSeconds

/-- **That two entries of timelines are the same** up to names and times. -/
structure SameEntry (e e' : TimelineEntry) : Prop where
  activityId : e'.activityId = r.id e.activityId
  revisionId : e'.revisionId = e.revisionId.map r.id
  createdAt : r.SameSecond e.createdAt e'.createdAt
  cancelled : e'.cancelled = e.cancelled
  cancelledAt : Option.Rel r.SameSecond e.cancelledAt e'.cancelledAt
  objectId : e'.objectId = r.id e.objectId
  objectType : e'.objectType = e.objectType
  activityType : e'.activityType = e.activityType
  username : e'.username = e.username
  userDisplayName : e'.userDisplayName = e.userDisplayName
  comment : e'.comment = e.comment

/-- **That two answers of a read are the same** up to names and times. -/
def SameAnswer {α : Type} : Read α → α → α → Prop
  | .tagsByIds _ _ | .tagsByNames _ _ | .tagsCompleting _ _ _ _ | .recommendedTags _
  | .reservedTags _ | .tagsWhere _ _ => fun tags tags' => tags' = tags.map r.tag
  | .tagBySlugName _ _ | .tagById _ _ | .tagByIdAnyStatus _ _ => fun tag? tag?' =>
      tag?' = tag?.map r.tag
  | .tagPage _ _ _ _ _ => fun page page' => page' = (page.1.map r.tag, page.2)
  | .catalog _ _ => fun answer answer' => answer' = answer.mapRows r.tag
  | .activitiesOf _ _ => fun activities activities' => activities' = activities.map r.activity
  | .timeline _ _ => fun timeline timeline' =>
      timeline'.objectInfo = timeline.objectInfo ∧
        List.Forall₂ r.SameEntry timeline.entries timeline'.entries
  | .diff _ _ => fun diff diff' => diff' = diff
  | .findRevision _ => fun revision? revision?' => revision?' = revision?.map r.revision
  | .getRevision _ => fun revision revision' => revision' = r.revision revision
  | .revisionsOf _ => fun revisions revisions' => revisions' = revisions.map r.revision
  | .findSettings => fun row? row?' => row?' = row?.map r.settings
  | .setting _ => fun tagRequired tagRequired' => tagRequired' = tagRequired

/-- **That two failures are the same** up to names: they tell of the same, or of a tag or a revision
and of what has its other name. -/
def SameFailure (e e' : ServiceError) : Prop :=
  e' = e ∨ (∃ id, e = .tagNotFound id ∧ e' = .tagNotFound (r.id id)) ∨
    ∃ id, e = .revisionNotFound id ∧ e' = .revisionNotFound (r.id id)

/-- **That two outcomes are alike**: both are answers that are the same, or failures that are. -/
def Alike {α : Type} (same : α → α → Prop) :
    Except ServiceError α → Except ServiceError α → Prop
  | .ok a, .ok a' => same a a'
  | .error e, .error e' => r.SameFailure e e'
  | _, _ => False

end Renaming

namespace Renaming

variable {r : Renaming} {s : Store} {α β : Type}

/-- Outcomes one of which is the other, renamed, are alike. -/
theorem alike_of_eq_map {x x' : Except ServiceError α} {rename : α → α} (h : x' = x.map rename) :
    r.Alike (fun a a' => a' = rename a) x x' := by
  subst h
  cases x with
  | error e => exact .inl rfl
  | ok a => rfl

/-- Outcomes that are alike stay so if each goes on in the same way. -/
theorem Alike.bind {same : α → α → Prop} {same' : β → β → Prop} {x x' : Except ServiceError α}
    {next next' : α → Except ServiceError β} (h : r.Alike same x x')
    (hnext : ∀ a a', same a a' → r.Alike same' (next a) (next' a')) :
    r.Alike same' (x >>= next) (x' >>= next') := by
  cases x with
  | error e =>
      cases x' with
      | error e' => exact h
      | ok a' => exact h.elim
  | ok a =>
      cases x' with
      | error e' => exact h.elim
      | ok a' => exact hnext a a' h

/-- Outcomes that are alike stay so if their answers are changed in the same way. -/
theorem Alike.map {same : α → α → Prop} {same' : β → β → Prop} {x x' : Except ServiceError α}
    {change change' : α → β} (h : r.Alike same x x')
    (hchange : ∀ a a', same a a' → same' (change a) (change' a')) :
    r.Alike same' (x.map change) (x'.map change') :=
  h.bind fun a a' ha => hchange a a' ha

/-! ### Reads -/

section

variable {query query' : List Tag → List Tag}

/-- Tags that are read are masked under their other names. -/
theorem masked_map (tagRequired : Bool) (t : Tag) :
    (r.tag t).masked tagRequired = r.tag (t.masked tagRequired) := by
  cases tagRequired <;> rfl

/-- **Tags are read** under their other names. -/
theorem readTags_store
    (h : ∀ rows, s.rows? Tag = some rows → query' (rows.map r.tag) = (query rows).map r.tag)
    (context : String) (tagRequired : Bool) :
    (r.store s).readTags context query' tagRequired =
      (s.readTags context query tagRequired).map (List.map r.tag) :=
  select_store (fun rows hrows => by
    have hquery : query' (rows.map (Renamable.row r)) = (query rows).map r.tag := h rows hrows
    rw [hquery, List.map_map, List.map_map]
    exact List.map_congr_left fun t _ => masked_map tagRequired t) context

/-- **A tag is read** under its other name. -/
theorem readTag_store {query query' : List Tag → Option Tag}
    (h : ∀ rows, query' (rows.map r.tag) = (query rows).map r.tag) (context : String)
    (tagRequired : Bool) :
    (r.store s).readTag context query' tagRequired =
      (s.readTag context query tagRequired).map (Option.map r.tag) :=
  select_store (fun rows _ => by
    have hquery : query' (rows.map (Renamable.row r)) = (query rows).map r.tag := h rows
    rw [hquery]
    cases query rows with
    | none => rfl
    | some t => exact congrArg some (masked_map tagRequired t)) context

end

/-- **That a renaming knows a store**: the ids in it are generated, and its times are read from
clocks. -/
structure KnowsStore (r : Renaming) (s : Store) : Prop where
  tags : s.AllRows fun t : Tag => r.Knows t.id t.createdAt
  activities : s.AllRows fun a : Activity => r.Knows a.id a.createdAt
  revisions : s.AllRows fun v : Revision => r.Knows v.id v.createdAt

/-- The row of settings is found under other names. -/
theorem findSettings_store :
    (r.store s).findSettings = s.findSettings.map (Option.map r.settings) :=
  select_store (fun rows _ => find?_map (fun _ => rfl) rows) _

/-- The setting does not depend on names. -/
theorem tagRequired_store (source : SettingSource) :
    source.tagRequired (r.store s) = source.tagRequired s := by
  cases source with
  | fixed | failing => rfl
  | stored =>
      rw [SettingSource.tagRequired, SettingSource.tagRequired, findSettings_store]
      cases s.findSettings with
      | error e => rfl
      | ok row? => cases row? <;> rfl

/-- The effective setting does not depend on names. -/
theorem effective_store (source : SettingSource) :
    source.effective (r.store s) = source.effective s := by
  rw [SettingSource.effective, tagRequired_store, SettingSource.effective]

/-- A revision is found under its other name. -/
theorem findRevision_store (id : String) :
    (r.store s).findRevision (r.id id) = (s.findRevision id).map (Option.map r.revision) :=
  select_store (fun rows _ => find?_map (fun v => beq_id v.id id) rows) _

/-- A revision is got under its other name, and missed under it. -/
theorem alike_getRevision (id : String) :
    r.Alike (fun revision revision' => revision' = r.revision revision) (s.getRevision id)
      ((r.store s).getRevision (r.id id)) := by
  rw [Store.getRevision, Store.getRevision, findRevision_store]
  rcases s.findRevision id with e | _ | revision
  · exact .inl rfl
  · exact .inr (.inr ⟨id, rfl, rfl⟩)
  · rfl

/-- A tag that has to be there is there, or missed, under its other name. -/
theorem alike_expect {name name' : String} (hname : name' = name ∨ name' = r.id name)
    (x : Except ServiceError (Option Tag)) :
    r.Alike (fun tag tag' => tag' = r.tag tag) (Catalog.expect name x)
      (Catalog.expect name' (x.map (Option.map r.tag))) := by
  rcases x with e | _ | t
  · exact .inl rfl
  · rcases hname with rfl | rfl
    · exact .inl rfl
    · exact .inr (.inl ⟨name, rfl, rfl⟩)
  · rfl

/-- An available tag is read by its other name. -/
theorem tagById_store (id : String) (tagRequired : Bool) :
    (r.store s).tagById (r.id id) tagRequired =
      (s.tagById id tagRequired).map (Option.map r.tag) :=
  readTag_store (byId?_map id) _ _

/-- A tag of any status is read by its other name. -/
theorem tagByIdAnyStatus_store (id : String) (tagRequired : Bool) :
    (r.store s).tagByIdAnyStatus (r.id id) tagRequired =
      (s.tagByIdAnyStatus id tagRequired).map (Option.map r.tag) :=
  readTag_store (byIdAnyStatus?_map id) _ _

/-- A tag is read by its slug name, which is no id. -/
theorem tagBySlugName_store (slugName : String) (tagRequired : Bool) :
    (r.store s).tagBySlugName slugName tagRequired =
      (s.tagBySlugName slugName tagRequired).map (Option.map r.tag) :=
  readTag_store (bySlugName?_map slugName) _ _

/-- Tags that complete a name are read under their other names. -/
theorem tagsCompleting_store (name : String) (limit : UInt64) (hasReserved tagRequired : Bool) :
    (r.store s).tagsCompleting name limit hasReserved tagRequired =
      (s.tagsCompleting name limit hasReserved tagRequired).map (List.map r.tag) :=
  readTags_store (fun rows _ => completions_map name limit hasReserved rows) _ _

/-- Recommended tags are read under their other names. -/
theorem recommendedTags_store (tagRequired : Bool) :
    (r.store s).recommendedTags tagRequired =
      (s.recommendedTags tagRequired).map (List.map r.tag) :=
  readTags_store (fun rows _ => recommended_map rows) _ _

/-- Reserved tags are read under their other names. -/
theorem reservedTags_store (tagRequired : Bool) :
    (r.store s).reservedTags tagRequired = (s.reservedTags tagRequired).map (List.map r.tag) :=
  readTags_store (fun rows _ => reserved_map rows) _ _

/-- Tags that a filter accepts are read under their other names. -/
theorem tagsWhere_store (f : TagFilter) (tagRequired : Bool) :
    (r.store s).tagsWhere (r.filter f) tagRequired =
      (s.tagsWhere f tagRequired).map (List.map r.tag) :=
  readTags_store (fun rows _ => filtered_map f rows) _ _

section

variable (hs : r.KnowsStore s)

include hs

/-- Tags are read by their other names, in the same order. -/
theorem tagsByIds_store (ids : List String) (tagRequired : Bool) :
    (r.store s).tagsByIds (ids.map r.id) tagRequired =
      (s.tagsByIds ids tagRequired).map (List.map r.tag) :=
  readTags_store (fun rows hrows => byIds_map (hs.tags rows hrows) ids) _ _

/-- Tags are read by their slug names, which are no ids, in the same order. -/
theorem tagsByNames_store (names : List String) (tagRequired : Bool) :
    (r.store s).tagsByNames names tagRequired =
      (s.tagsByNames names tagRequired).map (List.map r.tag) :=
  readTags_store (fun rows hrows => byNames_map (hs.tags rows hrows) names) _ _

/-- A page of tags is read under other names. -/
theorem tagPage_store (page pageSize : UInt64) (f : TagFilter) (sort : TagSort)
    (tagRequired : Bool) :
    (r.store s).tagPage page pageSize (r.filter f) sort tagRequired =
      (s.tagPage page pageSize f sort tagRequired).map
        fun answer => (answer.1.map r.tag, answer.2) :=
  select_store (fun rows hrows => by
    have hpage := page_map (hs.tags rows hrows) page pageSize f sort
    have hmasked : ∀ tags : List Tag, (tags.map r.tag).map (Tag.masked tagRequired) =
        (tags.map (Tag.masked tagRequired)).map r.tag := fun tags => by
      rw [List.map_map, List.map_map]
      exact List.map_congr_left fun t _ => masked_map tagRequired t
    simp only [show rows.map (Renamable.row r) = rows.map r.tag from rfl, hpage, hmasked]) _

/-- **Reads of the catalog** by other names. -/
theorem alike_tagRead (source : SettingSource) (read : TagRead) :
    r.Alike (fun answer answer' => answer' = answer.mapRows r.tag) (read.answer source s)
      ((r.tagRead read).answer source (r.store s)) := by
  have hone : ∀ a a', a' = r.tag a → TagAnswer.one a' = (TagAnswer.one a).mapRows r.tag := by
    rintro a _ rfl
    rfl
  have hlist : ∀ {x x' : Except ServiceError (List Tag)}, x' = x.map (List.map r.tag) →
      r.Alike (fun answer answer' => answer' = TagAnswer.mapRows r.tag answer)
        (x.map TagAnswer.list) (x'.map TagAnswer.list) := fun h =>
    (alike_of_eq_map h).map (by rintro a _ rfl; rfl)
  have heffective := effective_store (r := r) (s := s) source
  cases read with
  | tag id =>
      simp only [tagRead, TagRead.answer, Catalog.getTag, heffective, tagById_store]
      exact (alike_expect (.inr rfl) _).map hone
  | tagAnyStatus id =>
      simp only [tagRead, TagRead.answer, Catalog.getTagAnyStatus, heffective,
        tagByIdAnyStatus_store]
      exact (alike_expect (.inr rfl) _).map hone
  | tagBySlugName slugName =>
      simp only [tagRead, TagRead.answer, Catalog.getTagBySlugName, heffective,
        tagBySlugName_store]
      exact (alike_expect (.inl rfl) _).map hone
  | tagsByIds ids =>
      simp only [tagRead, TagRead.answer, Catalog.getTagsByIds, heffective]
      exact hlist (tagsByIds_store hs ids _)
  | tagsBySlugNames names =>
      simp only [tagRead, TagRead.answer, Catalog.getTagsBySlugNames, heffective]
      exact hlist (tagsByNames_store hs names _)
  | search request =>
      simp only [tagRead, TagRead.answer, Catalog.searchTags, heffective]
      cases request.violations with
      | nil => exact hlist (tagsCompleting_store _ _ _ _)
      | cons violation more => exact .inl rfl
  | recommended =>
      simp only [tagRead, TagRead.answer, Catalog.getRecommendTags, heffective]
      exact hlist (recommendedTags_store _)
  | reserved =>
      simp only [tagRead, TagRead.answer, Catalog.getReservedTags, heffective]
      exact hlist (reservedTags_store _)
  | tags f =>
      simp only [tagRead, TagRead.answer, Catalog.getTags, heffective]
      exact hlist (tagsWhere_store f _)
  | page request =>
      simp only [tagRead, TagRead.answer, Catalog.getTagPage, heffective]
      cases request.violations with
      | nil =>
          refine (alike_of_eq_map (tagPage_store hs _ _ _ _ _)).map ?_
          rintro a _ rfl
          rfl
      | cons violation more => exact .inl rfl

/-- The activities of a timeline are listed under other names, in the same order. -/
theorem activitiesOf_store (objectId : String) (showVote : Bool) :
    (r.store s).activitiesOf (r.id objectId) showVote =
      (s.activitiesOf objectId showVote).map (List.map r.activity) :=
  select_store (fun rows hrows => onTimeline_map (hs.activities rows hrows) objectId showVote) _

/-- The history of an object is listed under other names, in the same order. -/
theorem revisionsOf_store (objectId : String) :
    (r.store s).revisionsOf (r.id objectId) =
      (s.revisionsOf objectId).map (List.map r.revision) :=
  select_store (fun rows hrows => ofObject_map (hs.revisions rows hrows) objectId) _

end

/-- An id is empty under its other name exactly if it is empty. -/
theorem checkNotEmpty_map (field value : String) :
    Violation.checkNotEmpty field (r.id value) = Violation.checkNotEmpty field value := by
  rw [Violation.checkNotEmpty, Violation.checkNotEmpty]
  by_cases hempty : value = ""
  · rw [hempty, r.id_empty]
  · have hvalue : value.isEmpty = false := by simpa using hempty
    have hname : (r.id value).isEmpty = false := by simpa using hempty
    rw [hvalue, hname]
    rfl

/-- An object is looked up by its other name. -/
theorem object_resolvers (resolvers : Resolvers) (id : String) :
    (r.resolvers resolvers).object (r.id id) = resolvers.object id :=
  congrArg resolvers.object (r.id.symm_apply_apply id)

/-- A comment is looked up by its other name. -/
theorem comment_resolvers (resolvers : Resolvers) (id : String) :
    (r.resolvers resolvers).comment (r.id id) = resolvers.comment id :=
  congrArg resolvers.comment (r.id.symm_apply_apply id)

/-- **An activity is shown** under its other name. -/
theorem rel_entryOf? (resolvers : Resolvers) (a : Activity) :
    Option.Rel r.SameEntry (Timeline.entryOf? resolvers a)
      (Timeline.entryOf? (r.resolvers resolvers) (r.activity a)) := by
  have hcaption : Timeline.caption? (r.activity a) = Timeline.caption? a := rfl
  rw [Timeline.entryOf?, Timeline.entryOf?, hcaption]
  cases Timeline.caption? a with
  | none => exact .none
  | some caption =>
      refine .some ⟨rfl, rfl, ⟨a.createdAt, rfl, rfl⟩, rfl, ?_, rfl, rfl, rfl, rfl, rfl, ?_⟩
      · by_cases hcancelled : a.cancelled = true
        · have hcancelled' : (r.activity a).cancelled = true := hcancelled
          have htime : (r.activity a).cancelledAt = a.cancelledAt.map r.time := rfl
          rw [if_pos hcancelled, if_pos hcancelled', htime]
          cases a.cancelledAt with
          | none => exact .none
          | some time => exact .some ⟨time, rfl, rfl⟩
        · have hcancelled' : ¬ (r.activity a).cancelled = true := hcancelled
          rw [if_neg hcancelled, if_neg hcancelled']
          exact .none
      · simp only [activity, comment_resolvers]

/-- **Entries of a timeline** under other names. -/
theorem forall₂_entries (resolvers : Resolvers) (activities : List Activity) :
    List.Forall₂ r.SameEntry (activities.filterMap (Timeline.entryOf? resolvers))
      ((activities.map r.activity).filterMap (Timeline.entryOf? (r.resolvers resolvers))) := by
  have hrows : List.Forall₂ (fun a a' => a' = r.activity a) activities
      (activities.map r.activity) := by
    rw [List.forall₂_map_right_iff, List.forall₂_same]
    exact fun a _ => rfl
  refine List.rel_filterMap ?_ hrows
  rintro a _ rfl
  exact rel_entryOf? resolvers a

/-- **The timeline of an object** by its other name. -/
theorem alike_ofRequest (hs : r.KnowsStore s) (resolvers : Resolvers) (request : TimelineRequest) :
    r.Alike (r.SameAnswer (.timeline resolvers request)) (Timeline.ofRequest resolvers request s)
      (Timeline.ofRequest (r.resolvers resolvers)
        { request with objectId := r.id request.objectId } (r.store s)) := by
  have hviolations : ({ request with objectId := r.id request.objectId } :
      TimelineRequest).violations = request.violations := checkNotEmpty_map _ _
  rw [Timeline.ofRequest, Timeline.ofRequest, hviolations]
  cases request.violations with
  | cons violation more => exact .inl rfl
  | nil =>
      simp only [object_resolvers]
      cases resolvers.object request.objectId with
      | error e => exact .inl rfl
      | ok info =>
          refine (alike_of_eq_map (activitiesOf_store hs request.objectId request.showVote)).bind ?_
          rintro activities _ rfl
          exact ⟨rfl, forall₂_entries resolvers activities⟩

/-- **What a comparison displays of a revision** by its other name. -/
theorem alike_revisionDetail (resolvers : Resolvers) (id : String) :
    r.Alike (fun detail detail' => detail' = detail) (Timeline.revisionDetail resolvers id s)
      (Timeline.revisionDetail (r.resolvers resolvers) (r.id id) (r.store s)) := by
  refine (alike_getRevision id).bind ?_
  rintro revision _ rfl
  have hobject : (r.resolvers resolvers).object (r.revision revision).objectId =
      resolvers.object revision.objectId := object_resolvers resolvers revision.objectId
  rw [hobject]
  cases resolvers.object revision.objectId with
  | error e => exact .inl rfl
  | ok info => rfl

/-- **The comparison of two revisions** by their other names. -/
theorem alike_diffOfRequest (resolvers : Resolvers) (request : DiffRequest) :
    r.Alike (fun diff diff' => diff' = diff) (Timeline.diffOfRequest resolvers request s)
      (Timeline.diffOfRequest (r.resolvers resolvers)
        ⟨r.id request.oldRevisionId, r.id request.newRevisionId⟩ (r.store s)) := by
  have hviolations : DiffRequest.violations
      ⟨r.id request.oldRevisionId, r.id request.newRevisionId⟩ = request.violations := by
    rw [DiffRequest.violations, checkNotEmpty_map, checkNotEmpty_map]
    rfl
  rw [Timeline.diffOfRequest, Timeline.diffOfRequest, hviolations]
  cases request.violations with
  | cons violation more => exact .inl rfl
  | nil =>
      refine (alike_revisionDetail resolvers request.oldRevisionId).bind ?_
      rintro oldRevision _ rfl
      refine (alike_revisionDetail resolvers request.newRevisionId).bind ?_
      rintro newRevision _ rfl
      rfl

/-- **Every read answers the same by other names.** -/
theorem alike_answer (hs : r.KnowsStore s) (read : Read α) :
    r.Alike (r.SameAnswer read) (read.answer s) ((r.lookUp read).answer (r.store s)) := by
  cases read with
  | tagsByIds ids => exact alike_of_eq_map (tagsByIds_store hs ids _)
  | tagsByNames names => exact alike_of_eq_map (tagsByNames_store hs names _)
  | tagBySlugName => exact alike_of_eq_map (tagBySlugName_store _ _)
  | tagById => exact alike_of_eq_map (tagById_store _ _)
  | tagByIdAnyStatus => exact alike_of_eq_map (tagByIdAnyStatus_store _ _)
  | tagsCompleting => exact alike_of_eq_map (tagsCompleting_store _ _ _ _)
  | recommendedTags => exact alike_of_eq_map (recommendedTags_store _)
  | reservedTags => exact alike_of_eq_map (reservedTags_store _)
  | tagsWhere => exact alike_of_eq_map (tagsWhere_store _ _)
  | tagPage => exact alike_of_eq_map (tagPage_store hs _ _ _ _ _)
  | catalog source read => exact alike_tagRead hs source read
  | activitiesOf => exact alike_of_eq_map (activitiesOf_store hs _ _)
  | timeline resolvers request => exact alike_ofRequest hs resolvers request
  | diff resolvers request => exact alike_diffOfRequest resolvers request
  | findRevision => exact alike_of_eq_map (findRevision_store _)
  | getRevision => exact alike_getRevision _
  | revisionsOf => exact alike_of_eq_map (revisionsOf_store hs _)
  | findSettings => exact alike_of_eq_map findSettings_store
  | setting source =>
      have hsetting : source.tagRequired (r.store s) =
          (source.tagRequired s).map fun tagRequired => tagRequired := by
        rw [tagRequired_store]
        cases source.tagRequired s <;> rfl
      exact alike_of_eq_map hsetting

end Renaming

end TagTimeline
