import TagTimeline.Time.Document

/-!
# Revisions

A snapshot of an object, taken when somebody wrote or edited it. The content is JSON text whose
shape depends on the kind of object; it is kept as it came.
-/

namespace TagTimeline

open Json Time

/-- **A snapshot of an object.** -/
structure Revision where
  id : String
  /-- Who wrote it. -/
  userId : String
  /-- The object it shows. -/
  objectId : String
  title : String
  /-- The snapshot, as JSON text. -/
  content : String
  /-- Why the object was edited. -/
  log : Option String
  createdAt : Timestamp
  deriving DecidableEq

namespace Revision

/-- The names of a revision's fields, in the order of declaration. -/
def fieldNames : List String :=
  ["id", "user_id", "object_id", "title", "content", "log", "created_at"]

/-- The revision as a document. -/
def toDocument (revision : Revision) : Document :=
  .record
    [("id", .text revision.id),
     ("user_id", .text revision.userId),
     ("object_id", .text revision.objectId),
     ("title", .text revision.title),
     ("content", .text revision.content),
     ("log", .optional .text revision.log),
     ("created_at", revision.createdAt.toDocument)]

/-- The revision in a document. -/
def ofDocument? (document : Document) : Option Revision := do
  let fields ← document.record? fieldNames
  return {
    id := ← fields.required? "id" Document.text?
    userId := ← fields.required? "user_id" Document.text?
    objectId := ← fields.required? "object_id" Document.text?
    title := ← fields.required? "title" Document.text?
    content := ← fields.required? "content" Document.text?
    log := ← fields.optional? "log" Document.text?
    createdAt := ← fields.required? "created_at" Timestamp.ofDocument? }

end Revision

/-- **What a new revision is made of.** -/
structure NewRevision where
  userId : String
  objectId : String
  title : String
  content : String
  log : Option String
  deriving DecidableEq, Repr

namespace NewRevision

/-- The revision made of a new one. -/
def toRevision (new : NewRevision) (id : String) (now : Timestamp) : Revision where
  id := id
  userId := new.userId
  objectId := new.objectId
  title := new.title
  content := new.content
  log := new.log
  createdAt := now

end NewRevision

end TagTimeline
