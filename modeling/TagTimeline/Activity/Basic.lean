import TagTimeline.Activity.Kind
import TagTimeline.Time.Document

/-!
# Activities

One recorded activity: who did what to which object, and on whose timeline it belongs. A stored
activity keeps its kind as a code, which may be one that names no known kind. Only its cancellation
ever changes.
-/

namespace TagTimeline

open Json Time

/-- **A recorded activity.** -/
structure Activity where
  id : String
  /-- Who acted. -/
  userId : String
  /-- What was acted on: a comment, an answer voted for, or the object itself. -/
  objectId : String
  /-- The question, answer or tag on whose timeline the activity belongs. -/
  originalObjectId : String
  /-- The code of the kind. -/
  activityType : Int32
  /-- The revision that the activity made. -/
  revisionId : Option String
  cancelled : Bool
  cancelledAt : Option Timestamp
  createdAt : Timestamp
  deriving DecidableEq

namespace Activity

/-- The kind of an activity, if its code names one. -/
def kind? (activity : Activity) : Option ActivityKind := ActivityKind.ofCode? activity.activityType

/-- The names of an activity's fields, in the order of declaration. -/
def fieldNames : List String :=
  ["id", "user_id", "object_id", "original_object_id", "activity_type", "revision_id", "cancelled",
   "cancelled_at", "created_at"]

/-- The activity as a document. -/
def toDocument (activity : Activity) : Document :=
  .record
    [("id", .text activity.id),
     ("user_id", .text activity.userId),
     ("object_id", .text activity.objectId),
     ("original_object_id", .text activity.originalObjectId),
     ("activity_type", .int activity.activityType.toInt),
     ("revision_id", .optional .text activity.revisionId),
     ("cancelled", .bool activity.cancelled),
     ("cancelled_at", .optional Timestamp.toDocument activity.cancelledAt),
     ("created_at", activity.createdAt.toDocument)]

/-- The activity in a document. -/
def ofDocument? (document : Document) : Option Activity := do
  let fields ← document.record? fieldNames
  return {
    id := ← fields.required? "id" Document.text?
    userId := ← fields.required? "user_id" Document.text?
    objectId := ← fields.required? "object_id" Document.text?
    originalObjectId := ← fields.required? "original_object_id" Document.text?
    activityType := ← fields.required? "activity_type" Document.int32?
    revisionId := ← fields.optional? "revision_id" Document.text?
    cancelled := ← fields.required? "cancelled" Document.bool?
    cancelledAt := ← fields.optional? "cancelled_at" Timestamp.ofDocument?
    createdAt := ← fields.required? "created_at" Timestamp.ofDocument? }

end Activity

/-- **What a new activity is made of.** Only known kinds are recorded. -/
structure NewActivity where
  userId : String
  objectId : String
  originalObjectId : String
  kind : ActivityKind
  revisionId : Option String
  deriving DecidableEq, Repr

namespace NewActivity

/-- The activity made of a new one, not cancelled. -/
def toActivity (new : NewActivity) (id : String) (now : Timestamp) : Activity where
  id := id
  userId := new.userId
  objectId := new.objectId
  originalObjectId := new.originalObjectId
  activityType := new.kind.code
  revisionId := new.revisionId
  cancelled := false
  cancelledAt := none
  createdAt := now

end NewActivity

end TagTimeline
