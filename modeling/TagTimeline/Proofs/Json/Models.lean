import TagTimeline.Activity.Basic
import TagTimeline.Object
import TagTimeline.Proofs.Json.Form
import TagTimeline.Proofs.Time.Writing
import TagTimeline.Revision.Basic
import TagTimeline.Site.Settings
import TagTimeline.Tag.Basic

/-!
# What Is Stored in JSON Texts

Tags, activities, revisions and settings, and what the site knows about objects, users and comments:
each is read back from its writing, field by field. Times are written in a form of their own, which
may differ from the one they were read from, but not in the instant or the offset.

## Main results

* `Tag.lawfulForm` and its like — each value is found in its document.
* `inverse_models` — writing and reading are inverse.
-/

namespace TagTimeline

open Json Json.Document Time

namespace Time.Timestamp

/-- A timestamp is found in its document. -/
@[simp] theorem ofDocument?_toDocument (t : Timestamp) : ofDocument? t.toDocument = some t :=
  read?_toText t

/-- A timestamp can be written. -/
@[simp] theorem isSound_toDocument (test : Number → Bool) (t : Timestamp) :
    t.toDocument.isSound test = true := rfl

/-- An optional timestamp is read back. -/
@[simp] theorem orNull?_toDocument (t? : Option Timestamp) :
    (optional toDocument t?).orNull? ofDocument? = some t? :=
  orNull?_optional (fun _ => by simp [toDocument, text]) ofDocument?_toDocument t?

/-- An optional timestamp can be written. -/
@[simp] theorem isSound_optional_toDocument (test : Number → Bool) (t? : Option Timestamp) :
    (optional toDocument t?).isSound test = true := isSound_optional (isSound_toDocument test) t?

end Time.Timestamp

namespace TagStatus

/-- A status is found in its document. -/
@[simp] theorem ofDocument?_toDocument (status : TagStatus) :
    ofDocument? status.toDocument = some status := by
  cases status <;> decide

/-- A status can be written. -/
@[simp] theorem isSound_toDocument (test : Number → Bool) (status : TagStatus) :
    status.toDocument.isSound test = true := rfl

end TagStatus

namespace ObjectKind

/-- A kind is found in its document. -/
@[simp] theorem ofDocument?_toDocument (kind : ObjectKind) :
    ofDocument? kind.toDocument = some kind := ofName?_name kind

/-- A kind can be written. -/
@[simp] theorem isSound_toDocument (test : Number → Bool) (kind : ObjectKind) :
    kind.toDocument.isSound test = true := rfl

end ObjectKind

instance : HasForm Tag := ⟨Tag.toDocument, Tag.ofDocument?⟩
instance : HasForm Activity := ⟨Activity.toDocument, Activity.ofDocument?⟩
instance : HasForm Revision := ⟨Revision.toDocument, Revision.ofDocument?⟩
instance : HasForm SiteSettings := ⟨SiteSettings.toDocument, SiteSettings.ofDocument?⟩
instance : HasForm ObjectInfo := ⟨ObjectInfo.toDocument, ObjectInfo.ofDocument?⟩
instance : HasForm UserProfile := ⟨UserProfile.toDocument, UserProfile.ofDocument?⟩
instance : HasForm Comment := ⟨Comment.toDocument, Comment.ofDocument?⟩

/-- Tags are found in their documents. -/
instance Tag.lawfulForm : LawfulForm Tag where
  isSound_toDocument tag := isSound_record (by simp)
  ofDocument?_toDocument tag := by
    have hfields : tag.toDocument.record? fieldNames = some ⟨false, _⟩ :=
      record?_record rfl (by decide)
    change ofDocument? tag.toDocument = some tag
    rw [ofDocument?, hfields, Option.bind_eq_bind, Option.bind_some]
    refine Fields.bind_required? rfl (text?_text _) ?_
    refine Fields.bind_required? rfl (text?_text _) ?_
    refine Fields.bind_required? rfl (text?_text _) ?_
    refine Fields.bind_required? rfl (text?_text _) ?_
    refine Fields.bind_required? rfl (text?_text _) ?_
    refine Fields.bind_optional? rfl (orNull?_text _) ?_
    refine Fields.bind_optional? rfl (orNull?_text _) ?_
    refine Fields.bind_required? rfl (bool?_bool _) ?_
    refine Fields.bind_required? rfl (bool?_bool _) ?_
    refine Fields.bind_required? rfl (TagStatus.ofDocument?_toDocument _) ?_
    refine Fields.bind_required? rfl (int32?_int _) ?_
    refine Fields.bind_required? rfl (int32?_int _) ?_
    refine Fields.bind_required? rfl (text?_text _) ?_
    refine Fields.bind_required? rfl (Timestamp.ofDocument?_toDocument _) ?_
    refine Fields.bind_required? rfl (Timestamp.ofDocument?_toDocument _) ?_
    rfl

/-- Activities are found in their documents. -/
instance Activity.lawfulForm : LawfulForm Activity where
  isSound_toDocument activity := isSound_record (by simp)
  ofDocument?_toDocument activity := by
    have hfields : activity.toDocument.record? fieldNames = some ⟨false, _⟩ :=
      record?_record rfl (by decide)
    change ofDocument? activity.toDocument = some activity
    rw [ofDocument?, hfields, Option.bind_eq_bind, Option.bind_some]
    refine Fields.bind_required? rfl (text?_text _) ?_
    refine Fields.bind_required? rfl (text?_text _) ?_
    refine Fields.bind_required? rfl (text?_text _) ?_
    refine Fields.bind_required? rfl (text?_text _) ?_
    refine Fields.bind_required? rfl (int32?_int _) ?_
    refine Fields.bind_optional? rfl (orNull?_text _) ?_
    refine Fields.bind_required? rfl (bool?_bool _) ?_
    refine Fields.bind_optional? rfl (Timestamp.orNull?_toDocument _) ?_
    refine Fields.bind_required? rfl (Timestamp.ofDocument?_toDocument _) ?_
    rfl

/-- Revisions are found in their documents. -/
instance Revision.lawfulForm : LawfulForm Revision where
  isSound_toDocument revision := isSound_record (by simp)
  ofDocument?_toDocument revision := by
    have hfields : revision.toDocument.record? fieldNames = some ⟨false, _⟩ :=
      record?_record rfl (by decide)
    change ofDocument? revision.toDocument = some revision
    rw [ofDocument?, hfields, Option.bind_eq_bind, Option.bind_some]
    refine Fields.bind_required? rfl (text?_text _) ?_
    refine Fields.bind_required? rfl (text?_text _) ?_
    refine Fields.bind_required? rfl (text?_text _) ?_
    refine Fields.bind_required? rfl (text?_text _) ?_
    refine Fields.bind_required? rfl (text?_text _) ?_
    refine Fields.bind_optional? rfl (orNull?_text _) ?_
    refine Fields.bind_required? rfl (Timestamp.ofDocument?_toDocument _) ?_
    rfl

/-- Settings are found in their documents. -/
instance SiteSettings.lawfulForm : LawfulForm SiteSettings where
  isSound_toDocument settings := isSound_record (by simp)
  ofDocument?_toDocument settings := by
    have hfields : settings.toDocument.record? fieldNames = some ⟨false, _⟩ :=
      record?_record rfl (by decide)
    change ofDocument? settings.toDocument = some settings
    rw [ofDocument?, hfields, Option.bind_eq_bind, Option.bind_some]
    refine Fields.bind_required? rfl (text?_text _) ?_
    refine Fields.bind_required? rfl (bool?_bool _) ?_
    refine Fields.bind_required? rfl (Timestamp.ofDocument?_toDocument _) ?_
    refine Fields.bind_optional? rfl (Timestamp.orNull?_toDocument _) ?_
    rfl

/-- Objects are found in their documents. -/
instance ObjectInfo.lawfulForm : LawfulForm ObjectInfo where
  isSound_toDocument info := isSound_record (by simp)
  ofDocument?_toDocument info := by
    have hfields : info.toDocument.record? ["title", "object_type", "question_id", "answer_id"] =
        some ⟨false, _⟩ :=
      record?_record rfl (by decide)
    change ofDocument? info.toDocument = some info
    rw [ofDocument?, hfields, Option.bind_eq_bind, Option.bind_some]
    refine Fields.bind_required? rfl (text?_text _) ?_
    refine Fields.bind_required? rfl (ObjectKind.ofDocument?_toDocument _) ?_
    refine Fields.bind_optional? rfl (orNull?_text _) ?_
    refine Fields.bind_optional? rfl (orNull?_text _) ?_
    rfl

/-- Profiles of users are found in their documents. -/
instance UserProfile.lawfulForm : LawfulForm UserProfile where
  isSound_toDocument user := isSound_record (by simp)
  ofDocument?_toDocument user := by
    have hfields : user.toDocument.record? ["id", "username", "display_name"] =
        some ⟨false, _⟩ :=
      record?_record rfl (by decide)
    change ofDocument? user.toDocument = some user
    rw [ofDocument?, hfields, Option.bind_eq_bind, Option.bind_some]
    refine Fields.bind_required? rfl (text?_text _) ?_
    refine Fields.bind_required? rfl (text?_text _) ?_
    refine Fields.bind_required? rfl (text?_text _) ?_
    rfl

/-- Comments are found in their documents. -/
instance Comment.lawfulForm : LawfulForm Comment where
  isSound_toDocument comment := isSound_record (by simp)
  ofDocument?_toDocument comment := by
    have hfields : comment.toDocument.record? ["id", "parsed_text"] =
        some ⟨false, _⟩ :=
      record?_record rfl (by decide)
    change ofDocument? comment.toDocument = some comment
    rw [ofDocument?, hfields, Option.bind_eq_bind, Option.bind_some]
    refine Fields.bind_required? rfl (text?_text _) ?_
    refine Fields.bind_required? rfl (text?_text _) ?_
    rfl

/-- **Writing and reading are inverse** for everything that is stored, and for what is told about
objects, users and comments: every value is read back from its writing, whatever text it was read
from, and writing what a text spells changes nothing the second time. -/
theorem inverse_models :
    Inverse Tag ∧ Inverse Activity ∧ Inverse Revision ∧ Inverse SiteSettings ∧
      Inverse ObjectInfo ∧ Inverse UserProfile ∧ Inverse Comment :=
  ⟨LawfulForm.inverse Tag, LawfulForm.inverse Activity, LawfulForm.inverse Revision,
    LawfulForm.inverse SiteSettings, LawfulForm.inverse ObjectInfo, LawfulForm.inverse UserProfile,
    LawfulForm.inverse Comment⟩

end TagTimeline
