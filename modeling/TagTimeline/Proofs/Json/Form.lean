import TagTimeline.Json.Record
import TagTimeline.Proofs.Json.Giving
import TagTimeline.Proofs.Json.Writing

/-!
# Values in JSON Texts

Values that have a form in JSON documents, and when writing a value and reading it are inverse: its
document can be written, and it is found in its document again.

## Main results

* `Json.Inverse` — what inverse means for texts.
* `Json.LawfulForm.inverse` — it is enough to look at documents.
-/

namespace TagTimeline.Json

/-- **Values with a form in documents.** -/
class HasForm (α : Type) where
  toDocument : α → Document
  ofDocument? : Document → Option α

section

variable {α : Type} [HasForm α]

/-- A value in writing. -/
def encode (a : α) : String := (HasForm.toDocument a).toText

/-- The value that a text spells. -/
def decode? (α : Type) [HasForm α] (text : String) : Option α :=
  (Document.read? text).bind HasForm.ofDocument?

/-- The value that a text spells in writing. -/
def reencode? (α : Type) [HasForm α] (text : String) : Option String :=
  (decode? α text).map encode

end

/-- **That writing and reading are inverse.** -/
structure Inverse (α : Type) [HasForm α] : Prop where
  /-- Every value is read back from its writing, whatever it was read from. -/
  decode?_encode : ∀ a : α, decode? α (encode a) = some a
  /-- Writing what a text spells changes nothing the second time. -/
  reencode?_reencode : ∀ text text', reencode? α text = some text' →
    reencode? α text' = some text'

/-- **Values that are found in their documents**, which can be written. -/
class LawfulForm (α : Type) [HasForm α] : Prop where
  isSound_toDocument : ∀ a : α, (HasForm.toDocument a).isSound Number.isWritable = true
  ofDocument?_toDocument : ∀ a : α, HasForm.ofDocument? (HasForm.toDocument a) = some a

/-- **What is inverse for documents** is inverse for texts. -/
theorem LawfulForm.inverse (α : Type) [HasForm α] [LawfulForm α] : Inverse α := by
  have hdecode : ∀ a : α, decode? α (encode a) = some a := by
    intro a
    rw [decode?, encode, Document.read?_toText (isSound_toDocument a)]
    exact ofDocument?_toDocument a
  refine ⟨hdecode, fun text text' h => ?_⟩
  obtain ⟨a, -, rfl⟩ := Option.map_eq_some_iff.mp h
  rw [reencode?, hdecode, Option.map_some]

/-! ### Records and their fields -/

namespace Document

/-- **A record is read by the names of its members.** -/
theorem record?_record {names : List String} {members : List (String × Document)}
    (hnames : members.map Prod.fst = names) (hnodup : names.Nodup) :
    (record members).record? names = some ⟨false, members⟩ := by
  obtain ⟨written, hwritten, hnamed⟩ :
      ∃ written, record members = .object written ∧ namedMembers? written = some members :=
    ⟨_, rfl, namedMembers?_eq_some_iff.mpr rfl⟩
  have honce : (names.all fun name => members.countP (fun m => m.1 == name) ≤ 1) = true := by
    rw [List.all_eq_true]
    intro name _
    have hcount : members.countP (fun m => m.1 == name) = names.count name := by
      rw [← hnames, List.count, List.countP_map]
      rfl
    rw [decide_eq_true_eq, hcount]
    exact List.nodup_iff_count.mp hnodup name
  have hknown : members.filter (fun m => names.contains m.1) = members := by
    rw [List.filter_eq_self]
    intro m hm
    rw [List.contains_iff_mem, ← hnames]
    exact List.mem_map_of_mem hm
  rw [hwritten, record?, hnamed, Option.bind_some, if_pos honce, hknown]

/-- A record can be written if all values in it can. -/
theorem isSound_record {test : Number → Bool} {members : List (String × Document)}
    (h : ∀ m ∈ members, m.2.isSound test = true) : (record members).isSound test = true := by
  rw [record, isSound]
  induction members with
  | nil => rfl
  | cons member members ih =>
      have hfirst := h member List.mem_cons_self
      have hrest := ih fun m hm => h m (List.mem_cons_of_mem _ hm)
      rw [List.map_cons, areSoundMembers, hfirst, hrest]
      rfl

/-- A text can be written. -/
@[simp] theorem isSound_text (test : Number → Bool) (s : String) :
    (text s).isSound test = true := rfl

/-- A flag can be written. -/
@[simp] theorem isSound_bool (test : Number → Bool) (b : Bool) : (bool b).isSound test = true := rfl

/-- A whole number can be written. -/
@[simp] theorem isSound_int (i : Int) : (int i).isSound Number.isWritable = true := rfl

/-- What is optional can be written if what is there can. -/
theorem isSound_optional {α : Type} {test : Number → Bool} {encode : α → Document}
    (h : ∀ a, (encode a).isSound test = true) (a? : Option α) :
    (optional encode a?).isSound test = true := by
  cases a? with
  | none => rfl
  | some a => exact h a

/-- An optional text can be written. -/
@[simp] theorem isSound_optional_text (test : Number → Bool) (s? : Option String) :
    (optional text s?).isSound test = true := isSound_optional (isSound_text test) s?

/-- A text is read back. -/
@[simp] theorem text?_text (s : String) : (text s).text? = some s := rfl

/-- A flag is read back. -/
@[simp] theorem bool?_bool (b : Bool) : (bool b).bool? = some b := rfl

/-- A whole number of 32 bits is read back. -/
@[simp] theorem int32?_int (i : Int32) : (int i.toInt).int32? = some i := by
  have hlow : -Int.pow 2 31 ≤ i.toInt := i.le_toInt
  have hhigh : i.toInt < Int.pow 2 31 := i.toInt_lt
  rw [int, int32?, int?, Number.int?_ofInt, Option.bind_some, if_pos ⟨hlow, hhigh⟩,
    Int32.ofInt_toInt]

/-- A value, or none for `null`. -/
def orNull? {α : Type} (decode : Document → Option α) : Document → Option (Option α)
  | .null => some none
  | d => (decode d).map some

/-- **What is optional is read back**, if nothing that is there is written as `null`. -/
theorem orNull?_optional {α : Type} {encode : α → Document} {decode : Document → Option α}
    (hnull : ∀ a, encode a ≠ .null) (hdecode : ∀ a, decode (encode a) = some a) (a? : Option α) :
    (optional encode a?).orNull? decode = some a? := by
  cases a? with
  | none => rfl
  | some a =>
      rw [optional]
      cases hdocument : encode a with
      | null => exact absurd hdocument (hnull a)
      | _ =>
          have hvalue := hdecode a
          rw [hdocument] at hvalue
          rw [orNull?, hvalue, Option.map_some]
          simp

/-- An optional text is read back. -/
@[simp] theorem orNull?_text (s? : Option String) : (optional text s?).orNull? text? = some s? :=
  orNull?_optional (fun _ => by simp [text]) text?_text s?

end Document

namespace Fields

variable {α β : Type} {fields : Fields} {name : String} {d : Document}
  {decode : Document → Option α}

/-- A record is read on behind a field that is read. -/
theorem bind_required? {a : α} {b : β} {next : α → Option β} (hfind : fields.find? name = some d)
    (hdecode : decode d = some a) (hnext : next a = some b) :
    (fields.required? name decode).bind next = some b := by
  rw [required?, hfind, Option.bind_some, hdecode, Option.bind_some, hnext]

/-- A record is read on behind an optional field that is read. -/
theorem bind_optional? {a? : Option α} {b : β} {next : Option α → Option β}
    (hfind : fields.find? name = some d) (hdecode : d.orNull? decode = some a?)
    (hnext : next a? = some b) : (fields.optional? name decode).bind next = some b := by
  have hread : fields.optional? name decode = d.orNull? decode := by
    rw [optional?, hfind]
    cases d <;> rfl
  rw [hread, hdecode, Option.bind_some, hnext]

end Fields

end TagTimeline.Json
