import TagTimeline.Activity.Log
import TagTimeline.Request
import TagTimeline.Revision.Content
import TagTimeline.Revision.History

/-!
# Timelines

What clients see of an object's history: its activities, each with the user who acted and, where a
comment was acted on, the comment's text; and two revisions side by side.

Objects, users and comments are looked up elsewhere, and a look-up can fail. Only an object or a
revision that cannot be found makes a request fail. A user or comment that cannot be looked up
leaves its part of an entry empty, and a revision whose content cannot be read is shown as empty.

## Main results

* `Timeline.ofRequest` — the timeline of an object.
* `Timeline.entryOf?` — one entry; activities without a label have none.
* `Timeline.diffOfRequest` — two revisions side by side.
-/

namespace TagTimeline

/-- **Where objects, users and comments are looked up.** -/
structure Resolvers where
  object : String → Except ServiceError ObjectInfo
  /-- Nothing is answered for a user who does not exist. -/
  user : String → Except ServiceError (Option UserProfile)
  comment : String → Except ServiceError Comment

/-- **An entry of a timeline.** -/
structure TimelineEntry where
  activityId : String
  revisionId : Option String
  /-- In seconds since 1970, as all times here. -/
  createdAt : Int
  cancelled : Bool
  /-- Only for cancelled activities. -/
  cancelledAt : Option Int
  objectId : String
  /-- Empty for an unknown kind of activity, as is the next field. -/
  objectType : String
  activityType : String
  /-- Empty for an unknown user, as is the next field. -/
  username : String
  userDisplayName : String
  /-- The text of a comment that was acted on. -/
  comment : String
  deriving DecidableEq, Repr

/-- **The timeline of an object**, the oldest entry first. -/
structure Timeline where
  objectInfo : ObjectInfo
  entries : List TimelineEntry
  deriving DecidableEq, Repr

/-- **Two revisions side by side.** -/
structure RevisionDiff where
  oldRevision : RevisionDetail
  newRevision : RevisionDetail
  deriving DecidableEq, Repr

namespace Timeline

/-- The names of a user, empty if they cannot be told. -/
def userNames : Except ServiceError (Option UserProfile) → String × String
  | .ok (some user) => (user.username, user.displayName)
  | _ => ("", "")

/-- The text of a comment, empty if it cannot be told. -/
def commentText : Except ServiceError Comment → String
  | .ok comment => comment.parsedText
  | .error _ => ""

/-- The kind of object and the label of an activity, both empty for an unknown kind; nothing for an
activity that timelines do not show. -/
def caption? (activity : Activity) : Option (String × String) :=
  match activity.kind? with
  | none => some ("", "")
  | some kind => kind.label?.map fun label => (kind.objectKind.name, label)

/-- **The entry of an activity**, if timelines show it. -/
def entryOf? (resolvers : Resolvers) (activity : Activity) : Option TimelineEntry :=
  (caption? activity).map fun (objectType, label) =>
    let names := userNames (resolvers.user activity.userId)
    { activityId := activity.id
      revisionId := activity.revisionId
      createdAt := activity.createdAt.unixSeconds
      cancelled := activity.cancelled
      cancelledAt :=
        if activity.cancelled then activity.cancelledAt.map fun at_ => at_.unixSeconds else none
      objectId := activity.objectId
      objectType := objectType
      activityType := label
      username := names.1
      userDisplayName := names.2
      comment :=
        if objectType = ObjectKind.comment.name then
          commentText (resolvers.comment activity.objectId)
        else "" }

/-- That a request breaks rules. -/
def refusal (violations : Violations) : ServiceError := .validation (Violation.summary violations)

/-- **The timeline that a request asks for.** -/
def ofRequest (resolvers : Resolvers) (request : TimelineRequest) (s : Store) :
    Except ServiceError Timeline :=
  match request.violations with
  | [] => do
      let objectInfo ← resolvers.object request.objectId
      let activities ← s.activitiesOf request.objectId request.showVote
      return ⟨objectInfo, activities.filterMap (entryOf? resolvers)⟩
  | violations => .error (refusal violations)

/-- What a comparison displays of a stored revision. -/
def revisionDetail (resolvers : Resolvers) (revisionId : String) (s : Store) :
    Except ServiceError RevisionDetail := do
  let revision ← s.getRevision revisionId
  let info ← resolvers.object revision.objectId
  return RevisionContent.detailOf info revision.content

/-- **The comparison that a request asks for.** The old revision is looked up first. -/
def diffOfRequest (resolvers : Resolvers) (request : DiffRequest) (s : Store) :
    Except ServiceError RevisionDiff :=
  match request.violations with
  | [] => do
      let oldRevision ← revisionDetail resolvers request.oldRevisionId s
      let newRevision ← revisionDetail resolvers request.newRevisionId s
      return ⟨oldRevision, newRevision⟩
  | violations => .error (refusal violations)

end Timeline

end TagTimeline
