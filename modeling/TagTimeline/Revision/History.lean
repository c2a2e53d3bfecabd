import TagTimeline.Store.Basic
import TagTimeline.Time.Order

/-!
# The History of Objects

Storing revisions and finding them again, by id or as the history of an object; and the relation
between activities and the revisions they made.
-/

namespace TagTimeline

open Time

namespace Revision

/-- The order of a history: by time as times are stored, and by id among revisions of the same
time. -/
def notAfter (a b : Revision) : Bool := a.createdAt.orderedWith b.createdAt a.id b.id

/-- **The revisions of an object**, in the order of its history. -/
def ofObject (objectId : String) (revisions : List Revision) : List Revision :=
  (revisions.filter fun r => r.objectId == objectId).mergeSort notAfter

end Revision

namespace Store

/-- **Stores a revision.** -/
def createRevision (id : String) (now : Timestamp) (new : NewRevision) (s : Store) :
    Outcome Revision :=
  s.write "insert revision" (Statement.insert Revision.clash? (new.toRevision id now))

/-- The revision with an id. -/
def findRevision (id : String) (s : Store) : Except ServiceError (Option Revision) :=
  s.select "get revision" fun revisions : List Revision => revisions.find? fun r => r.id == id

/-- The revision with an id; it is a failure if there is none. -/
def getRevision (id : String) (s : Store) : Except ServiceError Revision :=
  match s.findRevision id with
  | .ok (some revision) => .ok revision
  | .ok none => .error (.revisionNotFound id)
  | .error e => .error e

/-- The history of an object. -/
def revisionsOf (objectId : String) (s : Store) : Except ServiceError (List Revision) :=
  s.select "get object revisions" (Revision.ofObject objectId)

/-- What a failing join was part of. -/
def joinContext : String := "join"

/-- The two tables that a join reads. -/
def joined {α : Type} (query : List Activity → List Revision → α) (s : Store) :
    Except ServiceError α :=
  match s.select joinContext fun activities : List Activity => activities,
      s.select joinContext fun revisions : List Revision => revisions with
  | .ok activities, .ok revisions => .ok (query activities revisions)
  | .error e, _ => .error e
  | _, .error e => .error e

/-- Every activity with the revision that it made, if that is stored. -/
def activitiesWithRevision : Store → Except ServiceError (List (Activity × Option Revision)) :=
  joined fun activities revisions =>
    activities.map fun a => (a, revisions.find? fun r => a.revisionId == some r.id)

/-- Every revision with the activities that made it. -/
def revisionsWithActivities : Store → Except ServiceError (List (Revision × List Activity)) :=
  joined fun activities revisions =>
    revisions.map fun r => (r, activities.filter fun a => a.revisionId == some r.id)

end Store

end TagTimeline
