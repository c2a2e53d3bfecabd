import TagTimeline.Json.Record

/-!
# Objects, Users and Comments

What the site knows about the things that other parts of it keep: the objects that have timelines
and revisions, the users that act on them, and the comments on them. Each has a JSON form.
-/

namespace TagTimeline

open Json

/-- **The kinds of objects** that carry revisions and timelines. -/
inductive ObjectKind where
  | question
  | answer
  | tag
  | comment
  deriving DecidableEq, Repr

namespace ObjectKind

/-- Every kind. -/
def all : List ObjectKind := [question, answer, tag, comment]

/-- The name of a kind. -/
def name : ObjectKind → String
  | question => "question"
  | answer => "answer"
  | tag => "tag"
  | comment => "comment"

/-- The kind with a name. -/
def ofName? (name : String) : Option ObjectKind := all.find? fun kind => kind.name == name

/-- A kind is found by its name. -/
theorem ofName?_name (kind : ObjectKind) : ofName? kind.name = some kind := by
  cases kind <;> decide

/-- A kind as a document. -/
def toDocument (kind : ObjectKind) : Document := .text kind.name

/-- A kind in a document. -/
def ofDocument? : Document → Option ObjectKind := Document.choice? ofName?

end ObjectKind

/-- **A summary of an object.** For answers and comments the title is that of their question. -/
structure ObjectInfo where
  title : String
  kind : ObjectKind
  /-- The question the object belongs to. -/
  questionId : Option String
  /-- The answer the object belongs to. -/
  answerId : Option String
  deriving DecidableEq, Repr

namespace ObjectInfo

/-- The summary as a document. -/
def toDocument (info : ObjectInfo) : Document :=
  .record
    [("title", .text info.title),
     ("object_type", info.kind.toDocument),
     ("question_id", .optional .text info.questionId),
     ("answer_id", .optional .text info.answerId)]

/-- The summary in a document. -/
def ofDocument? (document : Document) : Option ObjectInfo := do
  let fields ← document.record? ["title", "object_type", "question_id", "answer_id"]
  return {
    title := ← fields.required? "title" Document.text?
    kind := ← fields.required? "object_type" ObjectKind.ofDocument?
    questionId := ← fields.optional? "question_id" Document.text?
    answerId := ← fields.optional? "answer_id" Document.text? }

end ObjectInfo

/-- **The public profile of a user.** -/
structure UserProfile where
  id : String
  username : String
  displayName : String
  deriving DecidableEq, Repr

namespace UserProfile

/-- The profile as a document. -/
def toDocument (user : UserProfile) : Document :=
  .record
    [("id", .text user.id),
     ("username", .text user.username),
     ("display_name", .text user.displayName)]

/-- The profile in a document. -/
def ofDocument? (document : Document) : Option UserProfile := do
  let fields ← document.record? ["id", "username", "display_name"]
  return {
    id := ← fields.required? "id" Document.text?
    username := ← fields.required? "username" Document.text?
    displayName := ← fields.required? "display_name" Document.text? }

end UserProfile

/-- **A comment** as a timeline shows it. -/
structure Comment where
  id : String
  /-- The rendered text. -/
  parsedText : String
  deriving DecidableEq, Repr

namespace Comment

/-- The comment as a document. -/
def toDocument (comment : Comment) : Document :=
  .record [("id", .text comment.id), ("parsed_text", .text comment.parsedText)]

/-- The comment in a document. -/
def ofDocument? (document : Document) : Option Comment := do
  let fields ← document.record? ["id", "parsed_text"]
  return {
    id := ← fields.required? "id" Document.text?
    parsedText := ← fields.required? "parsed_text" Document.text? }

end Comment

end TagTimeline
