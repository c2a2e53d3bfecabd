import TagTimeline.Activity.Timeline
import TagTimeline.Proofs.Tag.Masking

/-!
# Reads as Sessions

What a read does to the store. A session is a sequence of statements up to the first that fails, and
each statement works on the store that those before it have left. A statement that asks is run as
one that writes is: on the rows of a table, and with the rows that it leaves there. So nothing in
the shape of a session keeps it from writing. A read leaves the store as it was because each of its
statements gives back the rows that it is given.

## Main results

* `Session.Answers.bind` — sessions that only answer, one after the other, only answer.
* `Read.run_eq` — a read answers from the store and leaves it as it was.
-/

namespace TagTimeline

/-- **A session**: an operation on the store, statements one after the other. -/
def Session (α : Type) : Type := Store → Outcome α

/-- A session goes on where the statements before it have left the store, unless one has failed. -/
instance : Monad Session where
  pure a := fun s => (.ok a, s)
  bind session next := fun s =>
    match session s with
    | (.ok a, s) => next a s
    | (.error e, s) => (.error e, s)

namespace Session

variable {α β : Type}

/-- A statement that asks a table. It gives back the rows that it is given. -/
def ask {Row : Type} [Stored Row] (context : String) (query : List Row → α) : Session α :=
  Store.write context fun rows => .ok (query rows, rows)

/-- What is known without the store. -/
def told (answer : Except ServiceError α) : Session α := fun s => (answer, s)

/-- A session that goes on with a default if it fails. -/
def orElse (session : Session α) (default : α) : Session α := fun s =>
  match session s with
  | (.ok a, s) => (.ok a, s)
  | (.error _, s) => (.ok default, s)

/-- A session behind the check of a request, which is refused if it breaks rules. -/
def checked (violations : Violations) (session : Session α) : Session α :=
  match violations with
  | [] => session
  | violations => told (.error (Catalog.refusal violations))

/-- **That a session only answers**: what it answers of a store, and that it leaves the store. -/
def Answers (session : Session α) (answer : Store → Except ServiceError α) : Prop :=
  ∀ s, session s = (answer s, s)

/-- A statement that asks only answers. -/
theorem answers_ask {Row : Type} [Stored Row] [LawfulStored Row] (context : String)
    (query : List Row → α) : Answers (ask context query) (Store.select context query) := by
  intro s
  rw [ask]
  cases hrows : s.rows? Row with
  | none =>
      have htable : s.table? Row = none := Option.map_eq_none_iff.mp hrows
      rw [Store.write, Store.select, htable]
  | some rows =>
      have hselect : s.select context query = .ok (query rows) :=
        Store.select_ok_iff.mpr ⟨rows, hrows, rfl⟩
      rw [Store.write_eq hrows, hselect]
      exact congrArg (Except.ok (query rows), ·) (Store.withRows_self hrows)

/-- What is known is answered. -/
theorem answers_told (answer : Except ServiceError α) : Answers (told answer) fun _ => answer :=
  fun _ => rfl

/-- What is made of answers is answered. -/
theorem answers_pure (a : α) : Answers (pure a) fun _ => .ok a := fun _ => rfl

variable {session : Session α} {answer : Store → Except ServiceError α}

/-- **Sessions one after the other** only answer if each of them does. -/
theorem Answers.bind (h : session.Answers answer) {next : α → Session β}
    {more : α → Store → Except ServiceError β} (hnext : ∀ a, (next a).Answers (more a)) :
    Answers (session >>= next) fun s => (answer s).bind fun a => more a s := by
  intro s
  simp only [Bind.bind, h s]
  cases answer s with
  | ok a => exact hnext a s
  | error e => rfl

/-- A session that goes on with a default only answers if it does. -/
theorem Answers.orElse (h : session.Answers answer) (default : α) :
    Answers (session.orElse default) fun s => .ok ((answer s).toOption.getD default) := by
  intro s
  rw [Session.orElse, h s]
  dsimp only
  cases answer s <;> rfl

/-- A session behind a check only answers if it does. -/
theorem Answers.checked (h : session.Answers answer) (violations : Violations) :
    Answers (checked violations session) fun s =>
      match violations with
      | [] => answer s
      | violations => .error (Catalog.refusal violations) := by
  cases violations with
  | nil => exact h
  | cons => exact answers_told _

/-- An answer may be put in other words. -/
theorem Answers.congr (h : session.Answers answer) {answer' : Store → Except ServiceError α}
    (hsame : ∀ s, answer s = answer' s) : session.Answers answer' :=
  fun s => hsame s ▸ h s

/-! ### The reads of the store -/

/-- Some tags, as readers see them. -/
def tags (context : String) (query : List Tag → List Tag) (tagRequired : Bool) :
    Session (List Tag) := do
  return (← ask context query).map (Tag.masked tagRequired)

/-- One tag, as readers see it. -/
def tag? (context : String) (query : List Tag → Option Tag) (tagRequired : Bool) :
    Session (Option Tag) := do
  return (← ask context query).map (Tag.masked tagRequired)

/-- A page of tags. How many there are on all pages is asked first. -/
def tagPage (page pageSize : UInt64) (filter : TagFilter) (sort : TagSort) (tagRequired : Bool) :
    Session (List Tag × Nat) := do
  let count ← ask "count tag page" fun rows => (TagQuery.page page pageSize filter sort rows).2
  let found ← ask "get tag page" fun rows => (TagQuery.page page pageSize filter sort rows).1
  return (found.map (Tag.masked tagRequired), count)

/-- The row of settings, if it has been made. None is made. -/
def settings : Session (Option SiteSettings) :=
  ask "get site settings" fun rows => rows.find? fun row => row.id == SiteSettings.siteId

/-- Whether the site requires tags, by a source. -/
def setting : SettingSource → Session Bool
  | .fixed tagRequired => return tagRequired
  | .stored => return (← settings).any SiteSettings.requiredTag
  | .failing error => told (.error error)

/-- Whether the site requires tags, as far as it can be read. -/
def effective (source : SettingSource) : Session Bool := (setting source).orElse false

/-- The activities on an object's timeline. -/
def activitiesOf (objectId : String) (showVote : Bool) : Session (List Activity) :=
  ask "get object activity" (Activity.onTimeline objectId showVote)

/-- The revision with an id, if it is stored. -/
def revision? (id : String) : Session (Option Revision) :=
  ask "get revision" fun rows : List Revision => rows.find? fun r => r.id == id

/-- A revision that has to be there. -/
def expectRevision (id : String) : Option Revision → Except ServiceError Revision
  | some revision => .ok revision
  | none => .error (.revisionNotFound id)

/-- The revision with an id; it is a failure if there is none. -/
def revision (id : String) : Session Revision := do
  told (expectRevision id (← revision? id))

/-- What a comparison displays of a stored revision. -/
def detail (resolvers : Resolvers) (id : String) : Session RevisionDetail := do
  let revision ← revision id
  let info ← told (resolvers.object revision.objectId)
  return RevisionContent.detailOf info revision.content

end Session

/-- The session of a read of the catalog: the setting is read before the tags, and requests are
checked before anything is read. -/
def TagRead.run (source : SettingSource) : TagRead → Session TagAnswer
  | tag id => do
      let found ← Session.tag? "get tag by id" (TagQuery.byId? id) (← Session.effective source)
      Session.told ((Catalog.expect id (.ok found)).map .one)
  | tagAnyStatus id => do
      let found ← Session.tag? "get tag by id" (TagQuery.byIdAnyStatus? id)
        (← Session.effective source)
      Session.told ((Catalog.expect id (.ok found)).map .one)
  | tagBySlugName slugName => do
      let found ← Session.tag? "get tag by slug name" (TagQuery.bySlugName? slugName)
        (← Session.effective source)
      Session.told ((Catalog.expect slugName (.ok found)).map .one)
  | tagsByIds ids => do
      return .list (← Session.tags "get tag list by ids" (TagQuery.byIds ids)
        (← Session.effective source))
  | tagsBySlugNames names => do
      return .list (← Session.tags "get tag list by names" (TagQuery.byNames names)
        (← Session.effective source))
  | search request => Session.checked request.violations do
      return .list (← Session.tags "get tag list by name"
        (TagQuery.completions request.name request.limit request.hasReserved)
        (← Session.effective source))
  | recommended => do
      return .list (← Session.tags "get recommend tag list" TagQuery.recommended
        (← Session.effective source))
  | reserved => do
      return .list (← Session.tags "get reserved tag list" TagQuery.reserved
        (← Session.effective source))
  | tags filter => do
      return .list (← Session.tags "get tag list" (TagQuery.filtered filter)
        (← Session.effective source))
  | page request => Session.checked request.violations do
      return .page (← Session.tagPage request.page request.pageSize
        { slugName := request.slugName.filter (· ≠ "") } (TagSort.ofQuery request.queryCond)
        (← Session.effective source))

/-- **A read**, with its arguments, by what it answers. -/
inductive Read : Type → Type 1 where
  | tagsByIds (ids : List String) (tagRequired : Bool) : Read (List Tag)
  | tagsByNames (names : List String) (tagRequired : Bool) : Read (List Tag)
  | tagBySlugName (slugName : String) (tagRequired : Bool) : Read (Option Tag)
  | tagById (id : String) (tagRequired : Bool) : Read (Option Tag)
  | tagByIdAnyStatus (id : String) (tagRequired : Bool) : Read (Option Tag)
  | tagsCompleting (name : String) (limit : UInt64) (hasReserved tagRequired : Bool) :
      Read (List Tag)
  | recommendedTags (tagRequired : Bool) : Read (List Tag)
  | reservedTags (tagRequired : Bool) : Read (List Tag)
  | tagsWhere (filter : TagFilter) (tagRequired : Bool) : Read (List Tag)
  | tagPage (page pageSize : UInt64) (filter : TagFilter) (sort : TagSort) (tagRequired : Bool) :
      Read (List Tag × Nat)
  /-- A read of the catalog. -/
  | catalog (source : SettingSource) (read : TagRead) : Read TagAnswer
  | activitiesOf (objectId : String) (showVote : Bool) : Read (List Activity)
  | timeline (resolvers : Resolvers) (request : TimelineRequest) : Read Timeline
  /-- Two revisions side by side. -/
  | diff (resolvers : Resolvers) (request : DiffRequest) : Read RevisionDiff
  | findRevision (id : String) : Read (Option Revision)
  | getRevision (id : String) : Read Revision
  | revisionsOf (objectId : String) : Read (List Revision)
  | findSettings : Read (Option SiteSettings)
  /-- Whether the site requires tags. -/
  | setting (source : SettingSource) : Read Bool

/-- What a read answers. -/
def Read.answer {α : Type} : Read α → Store → Except ServiceError α
  | tagsByIds ids tagRequired, s => s.tagsByIds ids tagRequired
  | tagsByNames names tagRequired, s => s.tagsByNames names tagRequired
  | tagBySlugName slugName tagRequired, s => s.tagBySlugName slugName tagRequired
  | tagById id tagRequired, s => s.tagById id tagRequired
  | tagByIdAnyStatus id tagRequired, s => s.tagByIdAnyStatus id tagRequired
  | tagsCompleting name limit hasReserved tagRequired, s =>
      s.tagsCompleting name limit hasReserved tagRequired
  | recommendedTags tagRequired, s => s.recommendedTags tagRequired
  | reservedTags tagRequired, s => s.reservedTags tagRequired
  | tagsWhere filter tagRequired, s => s.tagsWhere filter tagRequired
  | tagPage page pageSize filter sort tagRequired, s =>
      s.tagPage page pageSize filter sort tagRequired
  | catalog source read, s => read.answer source s
  | activitiesOf objectId showVote, s => s.activitiesOf objectId showVote
  | timeline resolvers request, s => Timeline.ofRequest resolvers request s
  | diff resolvers request, s => Timeline.diffOfRequest resolvers request s
  | findRevision id, s => s.findRevision id
  | getRevision id, s => s.getRevision id
  | revisionsOf objectId, s => s.revisionsOf objectId
  | findSettings, s => s.findSettings
  | setting source, s => source.tagRequired s

/-- **The session of a read**, statement by statement. -/
def Read.run {α : Type} : Read α → Session α
  | tagsByIds ids tagRequired =>
      Session.tags "get tag list by ids" (TagQuery.byIds ids) tagRequired
  | tagsByNames names tagRequired =>
      Session.tags "get tag list by names" (TagQuery.byNames names) tagRequired
  | tagBySlugName slugName tagRequired =>
      Session.tag? "get tag by slug name" (TagQuery.bySlugName? slugName) tagRequired
  | tagById id tagRequired => Session.tag? "get tag by id" (TagQuery.byId? id) tagRequired
  | tagByIdAnyStatus id tagRequired =>
      Session.tag? "get tag by id" (TagQuery.byIdAnyStatus? id) tagRequired
  | tagsCompleting name limit hasReserved tagRequired =>
      Session.tags "get tag list by name" (TagQuery.completions name limit hasReserved) tagRequired
  | recommendedTags tagRequired =>
      Session.tags "get recommend tag list" TagQuery.recommended tagRequired
  | reservedTags tagRequired =>
      Session.tags "get reserved tag list" TagQuery.reserved tagRequired
  | tagsWhere filter tagRequired =>
      Session.tags "get tag list" (TagQuery.filtered filter) tagRequired
  | tagPage page pageSize filter sort tagRequired =>
      Session.tagPage page pageSize filter sort tagRequired
  | catalog source read => read.run source
  | activitiesOf objectId showVote => Session.activitiesOf objectId showVote
  | timeline resolvers request => Session.checked request.violations do
      let objectInfo ← Session.told (resolvers.object request.objectId)
      let activities ← Session.activitiesOf request.objectId request.showVote
      return ⟨objectInfo, activities.filterMap (Timeline.entryOf? resolvers)⟩
  | diff resolvers request => Session.checked request.violations do
      let oldRevision ← Session.detail resolvers request.oldRevisionId
      let newRevision ← Session.detail resolvers request.newRevisionId
      return ⟨oldRevision, newRevision⟩
  | findRevision id => Session.revision? id
  | getRevision id => Session.revision id
  | revisionsOf objectId => Session.ask "get object revisions" (Revision.ofObject objectId)
  | findSettings => Session.settings
  | setting source => Session.setting source

namespace Session

/-! ### What reads answer -/

variable {α : Type}

/-- A read of tags only answers. -/
theorem answers_tags (context : String) (query : List Tag → List Tag) (tagRequired : Bool) :
    (tags context query tagRequired).Answers (Store.readTags context query tagRequired) :=
  ((answers_ask context query).bind fun _ => answers_pure _).congr fun s => by
    rw [Store.readTags, Store.select, Store.select]
    cases s.table? Tag <;> rfl

/-- A read of a tag only answers. -/
theorem answers_tag? (context : String) (query : List Tag → Option Tag) (tagRequired : Bool) :
    (tag? context query tagRequired).Answers (Store.readTag context query tagRequired) :=
  ((answers_ask context query).bind fun _ => answers_pure _).congr fun s => by
    rw [Store.readTag, Store.select, Store.select]
    cases s.table? Tag <;> rfl

/-- A read of a page only answers, and the two statements answer from the same rows. -/
theorem answers_tagPage (page pageSize : UInt64) (filter : TagFilter) (sort : TagSort)
    (tagRequired : Bool) : (tagPage page pageSize filter sort tagRequired).Answers
      (Store.tagPage page pageSize filter sort tagRequired) :=
  ((answers_ask _ _).bind fun _ => (answers_ask _ _).bind fun _ => answers_pure _).congr
    fun s => by
      simp only [Store.tagPage, Store.select]
      cases s.table? Tag <;> rfl

/-- A search for the row of settings only answers. -/
theorem answers_settings : settings.Answers Store.findSettings := answers_ask _ _

/-- **A read of the setting only answers**: no row of settings is made for it. -/
theorem answers_setting (source : SettingSource) :
    (setting source).Answers source.tagRequired := by
  cases source with
  | fixed | failing => exact fun _ => rfl
  | stored =>
      refine (answers_settings.bind fun _ => answers_pure _).congr fun s => ?_
      rw [SettingSource.tagRequired]
      cases s.findSettings <;> rfl

/-- A read that made the row of settings where there is none would not only answer. -/
example (answer : Store → Except ServiceError SiteSettings) :
    ¬ Answers (fun s => s.getOrCreateSettings true Time.Timestamp.epoch) answer := by
  intro h
  have hstore : (Store.fresh.getOrCreateSettings true Time.Timestamp.epoch).2 = Store.fresh :=
    congrArg Prod.snd (h Store.fresh)
  exact absurd hstore (by decide)

/-- A session that begins with the setting as far as it can be read. -/
theorem answers_effective_bind (source : SettingSource) {session : Bool → Session α}
    {answer : Bool → Store → Except ServiceError α} (h : ∀ b, (session b).Answers (answer b)) :
    Answers (effective source >>= session) fun s => answer (source.effective s) s :=
  (((answers_setting source).orElse false).bind h).congr fun s => by
    rw [SettingSource.effective]
    cases source.tagRequired s <;> rfl

/-- A read of the activities of an object only answers. -/
theorem answers_activitiesOf (objectId : String) (showVote : Bool) :
    (activitiesOf objectId showVote).Answers (Store.activitiesOf objectId showVote) :=
  answers_ask _ _

/-- A search for a revision only answers. -/
theorem answers_revision? (id : String) : (revision? id).Answers (Store.findRevision id) :=
  answers_ask _ _

/-- A read of a revision only answers. -/
theorem answers_revision (id : String) : (revision id).Answers (Store.getRevision id) :=
  ((answers_revision? id).bind fun _ => answers_told _).congr fun s => by
    rw [Store.getRevision]
    rcases s.findRevision id with e | _ | revision <;> rfl

/-- What a comparison displays is read. -/
theorem answers_detail (resolvers : Resolvers) (id : String) :
    (detail resolvers id).Answers (Timeline.revisionDetail resolvers id) :=
  (answers_revision id).bind fun _ => (answers_told _).bind fun _ => answers_pure _

end Session

namespace TagRead

variable {source : SettingSource}

/-- The answer of one tag that has to be there. -/
theorem answers_expect {session : Session (Option Tag)}
    {answer : Store → Except ServiceError (Option Tag)} (h : session.Answers answer)
    (name : String) :
    Session.Answers (do Session.told ((Catalog.expect name (.ok (← session))).map .one))
      fun s => (Catalog.expect name (answer s)).map TagAnswer.one :=
  (h.bind fun _ => Session.answers_told _).congr fun s => by
    cases answer s <;> rfl

/-- The answer of a list of tags. -/
theorem answers_list {session : Session (List Tag)}
    {answer : Store → Except ServiceError (List Tag)} (h : session.Answers answer) :
    Session.Answers (do return TagAnswer.list (← session)) fun s => (answer s).map .list :=
  h.bind fun _ => Session.answers_pure _

/-- **A read of the catalog only answers.** -/
theorem answers_run (source : SettingSource) (read : TagRead) :
    (read.run source).Answers (read.answer source) := by
  cases read with
  | tag | tagAnyStatus | tagBySlugName =>
      exact Session.answers_effective_bind source fun b =>
        answers_expect (Session.answers_tag? _ _ b) _
  | tagsByIds | tagsBySlugNames | recommended | reserved | tags =>
      exact Session.answers_effective_bind source fun b =>
        answers_list (Session.answers_tags _ _ b)
  | search request =>
      refine ((Session.answers_effective_bind source fun b =>
        answers_list (Session.answers_tags _ _ b)).checked request.violations).congr fun s => ?_
      rw [answer, Catalog.searchTags]
      cases request.violations <;> rfl
  | page request =>
      refine ((Session.answers_effective_bind source fun b =>
        (Session.answers_tagPage _ _ _ _ b).bind fun _ =>
          Session.answers_pure _).checked request.violations).congr fun s => ?_
      rw [answer, Catalog.getTagPage]
      cases request.violations <;> rfl

end TagRead

namespace Read

variable {α : Type}

/-- **A read only answers.** -/
theorem answers_run (lookUp : Read α) : lookUp.run.Answers lookUp.answer := by
  cases lookUp with
  | tagsByIds | tagsByNames | tagsCompleting | recommendedTags | reservedTags | tagsWhere =>
      exact Session.answers_tags _ _ _
  | tagBySlugName | tagById | tagByIdAnyStatus => exact Session.answers_tag? _ _ _
  | tagPage => exact Session.answers_tagPage _ _ _ _ _
  | catalog source read => exact read.answers_run source
  | activitiesOf objectId showVote => exact Session.answers_activitiesOf objectId showVote
  | revisionsOf => exact Session.answers_ask _ _
  | findRevision id => exact Session.answers_revision? id
  | findSettings => exact Session.answers_settings
  | getRevision id => exact Session.answers_revision id
  | setting source => exact Session.answers_setting source
  | timeline resolvers request =>
      refine (((Session.answers_told _).bind fun _ =>
        (Session.answers_activitiesOf _ _).bind fun _ =>
          Session.answers_pure _).checked request.violations).congr fun s => ?_
      rw [answer, Timeline.ofRequest]
      cases request.violations <;> rfl
  | diff resolvers request =>
      refine (((Session.answers_detail _ _).bind fun _ =>
        (Session.answers_detail _ _).bind fun _ =>
          Session.answers_pure _).checked request.violations).congr fun s => ?_
      rw [answer, Timeline.diffOfRequest]
      cases request.violations <;> rfl

/-- **A read answers from the store and leaves it as it was.** -/
theorem run_eq (lookUp : Read α) (s : Store) : lookUp.run s = (lookUp.answer s, s) :=
  lookUp.answers_run s

end Read

end TagTimeline
