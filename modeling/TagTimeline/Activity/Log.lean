import TagTimeline.Store.Basic
import TagTimeline.Time.Order

/-!
# The Activity Log

Recording, cancelling and listing activities in the store. The log only grows: an activity is
never erased, and cancelling it changes nothing but its cancellation.
-/

namespace TagTimeline

open Time

namespace Activity

/-- The order of a timeline: by time as times are stored, and by id among activities of the same
time. -/
def notAfter (a b : Activity) : Bool := a.createdAt.orderedWith b.createdAt a.id b.id

/-- **The activities on an object's timeline**, in its order; those recorded for voters only if
they are wanted. -/
def onTimeline (objectId : String) (showVote : Bool) (activities : List Activity) :
    List Activity :=
  (activities.filter fun a =>
    a.originalObjectId == objectId &&
      (showVote || !ActivityKind.voteCodes.contains a.activityType)).mergeSort notAfter

end Activity

namespace Store

/-- **Records an activity.** -/
def createActivity (id : String) (now : Timestamp) (new : NewActivity) (s : Store) :
    Outcome Activity :=
  s.write "insert activity" (Statement.insert Activity.clash? (new.toActivity id now))

/-- **Cancels an activity.** One that does not exist is left at that. -/
def cancelActivity (id : String) (now : Timestamp) (s : Store) : Outcome Unit :=
  s.write "cancel activity" <| Statement.update (fun a : Activity => a.id == id)
    fun a => { a with cancelled := true, cancelledAt := some now }

/-- The activities on an object's timeline. -/
def activitiesOf (objectId : String) (showVote : Bool) (s : Store) :
    Except ServiceError (List Activity) :=
  s.select "get object activity" (Activity.onTimeline objectId showVote)

end Store

end TagTimeline
