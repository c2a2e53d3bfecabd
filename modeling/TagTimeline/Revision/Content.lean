import TagTimeline.Object

/-!
# The Content of Revisions

What a revision holds, by the kind of object it shows, and what a comparison of two revisions
displays of it. Every part of a content may be absent and is then empty. Comments have no
revisions.

## Main results

* `RevisionContent.decode` — reads the content of a revision.
* `RevisionContent.toDetail` — what a comparison displays of it.
-/

namespace TagTimeline

open Json

/-- **The content of a revision**, by the kind of object it shows. -/
inductive RevisionContent where
  /-- A question, with the slug names of its tags. -/
  | question (title originalText : String) (tags : List String)
  | answer (originalText : String)
  /-- The description of a tag. -/
  | tag (slugName originalText : String)
  deriving DecidableEq, Repr

/-- Why the content of a revision cannot be read. -/
inductive RevisionDecodeError where
  /-- Objects of this kind have no revisions. -/
  | unsupported (kind : ObjectKind)
  /-- The text is not the JSON form of such a content. Where and why reading it has failed, which
  the program adds to the wording, is left out. -/
  | malformed
  deriving DecidableEq, Repr

namespace RevisionDecodeError

/-- The wording of the error. -/
def message : RevisionDecodeError → String
  | unsupported kind => "unsupported object type: " ++ kind.name
  | malformed => "malformed revision content"

end RevisionDecodeError

/-- **What a comparison displays of a revision.** -/
structure RevisionDetail where
  title : String
  /-- Slug names; only questions have any. -/
  tags : List String
  originalText : String
  deriving DecidableEq, Repr

namespace RevisionDetail

/-- Nothing at all. -/
def empty : RevisionDetail := ⟨"", [], ""⟩

end RevisionDetail

namespace RevisionContent

/-- The slug name of a tag in the content of a question. -/
def tagName? (document : Document) : Option String := do
  let fields ← document.record? ["slug_name"]
  fields.withDefault? "slug_name" "" Document.text?

/-- The content of a question in a document. -/
def question? (document : Document) : Option RevisionContent := do
  let fields ← document.record? ["title", "original_text", "tags"]
  return .question
    (← fields.withDefault? "title" "" Document.text?)
    (← fields.withDefault? "original_text" "" Document.text?)
    (← fields.withDefault? "tags" [] (Document.list? tagName?))

/-- The content of an answer in a document. -/
def answer? (document : Document) : Option RevisionContent := do
  let fields ← document.record? ["original_text"]
  return .answer (← fields.withDefault? "original_text" "" Document.text?)

/-- The content of a tag in a document. -/
def tag? (document : Document) : Option RevisionContent := do
  let fields ← document.record? ["slug_name", "original_text"]
  return .tag
    (← fields.withDefault? "slug_name" "" Document.text?)
    (← fields.withDefault? "original_text" "" Document.text?)

/-- The content of a revision of an object of some kind in a document. -/
def ofDocument? : ObjectKind → Document → Option RevisionContent
  | .question => question?
  | .answer => answer?
  | .tag => tag?
  | .comment => fun _ => none

/-- **Reads the content of a revision** of an object of some kind. -/
def decode (kind : ObjectKind) (content : String) : Except RevisionDecodeError RevisionContent :=
  if kind = .comment then .error (.unsupported kind)
  else
    match (Document.read? content).bind (ofDocument? kind) with
    | some decoded => .ok decoded
    | none => .error .malformed

/-- **What a comparison displays of a content.** An answer shows the title of its question. -/
def toDetail (info : ObjectInfo) : RevisionContent → RevisionDetail
  | question title originalText tags => ⟨title, tags, originalText⟩
  | answer originalText => ⟨info.title, [], originalText⟩
  | tag slugName originalText => ⟨slugName, [], originalText⟩

/-- What a comparison displays of a revision: nothing if its content cannot be read. -/
def detailOf (info : ObjectInfo) (content : String) : RevisionDetail :=
  match decode info.kind content with
  | .ok decoded => decoded.toDetail info
  | .error _ => .empty

end RevisionContent

end TagTimeline
