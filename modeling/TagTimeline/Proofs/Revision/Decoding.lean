import TagTimeline.Proofs.Json.Giving
import TagTimeline.Revision.Content

/-!
# Decoding the Content of Revisions

A revision's content is decoded from every text that spells it, however it does: members in any
order and with any others among them, parts left out that are empty, blanks and escapes anywhere
they may stand, an array of the parts in place of an object. And nothing else is decoded: neither a
text that is no document or more than one, nor a document that gives a part twice or as something
else than what it is.

## Main results

* `RevisionContent.IsGivenBy` — which documents give a content.
* `RevisionContent.decodesExactly` — what is decoded, displayed and refused.
-/

namespace TagTimeline

open Json Json.Document

namespace RevisionContent

/-! ### What documents give -/

/-- The kind of object that a content is of. -/
def kind : RevisionContent → ObjectKind
  | question _ _ _ => .question
  | answer _ => .answer
  | tag _ _ => .tag

/-- The parts of a content, in the order of declaration. -/
def partNames : ObjectKind → List String
  | .question => ["title", "original_text", "tags"]
  | .answer => ["original_text"]
  | .tag => ["slug_name", "original_text"]
  | .comment => []

/-- The parts of a tag in the content of a question. -/
def entryNames : List String := ["slug_name"]

/-- **The slug name that a document gives for a tag.** -/
def NamesTag (d : Document) (name : String) : Prop :=
  ∃ given, d.Gives entryNames given ∧ Fills IsText "" (given "slug_name") name

/-- That a content has the parts that are given for it; what is not given is empty. -/
def IsFilledBy (content : RevisionContent) (given : String → Option Document) : Prop :=
  match content with
  | question title originalText tags =>
      Fills IsText "" (given "title") title ∧
      Fills IsText "" (given "original_text") originalText ∧
      Fills (IsList NamesTag) [] (given "tags") tags
  | answer originalText => Fills IsText "" (given "original_text") originalText
  | tag slugName originalText =>
      Fills IsText "" (given "slug_name") slugName ∧
      Fills IsText "" (given "original_text") originalText

/-- **That a document gives a content.** -/
def IsGivenBy (content : RevisionContent) (d : Document) : Prop :=
  ∃ given, d.Gives (partNames content.kind) given ∧ content.IsFilledBy given

/-- That a document is a string. -/
def IsString (d : Document) : Prop := ∃ s, d = .string s

/-- That a document is an object or array. -/
def IsRecord (d : Document) : Prop := (∃ members, d = .object members) ∨ ∃ items, d = .array items

/-- That a document may stand for a tag: an object or array with a string in it for the name. -/
def FitsTag (d : Document) : Prop :=
  IsRecord d ∧ ¬ d.Misgives entryNames fun _ value => IsString value

/-- **That a value may stand for a part**: a list of tags for the tags, a string for any other. -/
def FitsPart (name : String) (value : Document) : Prop :=
  if name = "tags" then ∃ items, value = .array items ∧ ∀ item ∈ items, FitsTag item
  else IsString value

/-! ### Decoding -/

variable {d : Document} {kind : ObjectKind} {text : String}

/-- **The name of a tag** is decoded as it is given. -/
theorem tagName?_eq_some_iff {name : String} : tagName? d = some name ↔ NamesTag d name := by
  have hnodup : entryNames.Nodup := by decide
  refine record?_bind_eq_some_iff hnodup (fun _ given => Fills IsText "" (given "slug_name") name)
    (fun fields => withDefault?_text_iff) fun {mayMiss given given'} hsame hname => ?_
  rwa [← hsame "slug_name" (by decide)]

/-- The tags in a field are what is given for it. -/
theorem withDefault?_tags_iff {fields : Fields} {name : String} {tags : List String} :
    fields.withDefault? name [] (list? tagName?) = some tags ↔
      Fills (IsList NamesTag) [] (fields.find? name) tags := by
  simp only [Fields.withDefault?_eq_some_iff, list?_eq_some_iff, tagName?_eq_some_iff]

/-- The parts of a content are named once each. -/
theorem nodup_partNames (kind : ObjectKind) : (partNames kind).Nodup := by cases kind <;> decide

/-- The content with the parts in some fields. -/
def ofFields? (fields : Fields) : ObjectKind → Option RevisionContent
  | .question => do
      return .question
        (← fields.withDefault? "title" "" text?)
        (← fields.withDefault? "original_text" "" text?)
        (← fields.withDefault? "tags" [] (list? tagName?))
  | .answer => do return .answer (← fields.withDefault? "original_text" "" text?)
  | .tag => do
      return .tag
        (← fields.withDefault? "slug_name" "" text?)
        (← fields.withDefault? "original_text" "" text?)
  | .comment => none

/-- A content is decoded from the fields of its parts. -/
theorem ofDocument?_eq (kind : ObjectKind) (d : Document) :
    ofDocument? kind d = (d.record? (partNames kind)).bind fun fields => ofFields? fields kind := by
  cases kind with
  | question | answer | tag => rfl
  | comment =>
      rw [partNames]
      cases d.record? [] <;> rfl

/-- **The parts in some fields** are those of a content of the kind. -/
theorem ofFields?_eq_some_iff {fields : Fields} {content : RevisionContent} :
    ofFields? fields kind = some content ↔
      content.kind = kind ∧ content.IsFilledBy fields.find? := by
  constructor
  · intro h
    cases kind with
    | question =>
        obtain ⟨title, htitle, h⟩ := Option.bind_eq_some_iff.mp h
        obtain ⟨originalText, htext, h⟩ := Option.bind_eq_some_iff.mp h
        obtain ⟨tags, htags, h⟩ := Option.bind_eq_some_iff.mp h
        cases h
        exact ⟨rfl, withDefault?_text_iff.mp htitle, withDefault?_text_iff.mp htext,
          withDefault?_tags_iff.mp htags⟩
    | answer =>
        obtain ⟨originalText, htext, h⟩ := Option.bind_eq_some_iff.mp h
        cases h
        exact ⟨rfl, withDefault?_text_iff.mp htext⟩
    | tag =>
        obtain ⟨slugName, hname, h⟩ := Option.bind_eq_some_iff.mp h
        obtain ⟨originalText, htext, h⟩ := Option.bind_eq_some_iff.mp h
        cases h
        exact ⟨rfl, withDefault?_text_iff.mp hname, withDefault?_text_iff.mp htext⟩
    | comment => cases h
  · rintro ⟨rfl, hfilled⟩
    cases content with
    | question title originalText tags =>
        obtain ⟨htitle, htext, htags⟩ := hfilled
        rw [kind, ofFields?, withDefault?_text_iff.mpr htitle, withDefault?_text_iff.mpr htext,
          withDefault?_tags_iff.mpr htags]
        rfl
    | answer originalText =>
        rw [kind, ofFields?, withDefault?_text_iff.mpr hfilled]
        rfl
    | tag slugName originalText =>
        obtain ⟨hname, htext⟩ := hfilled
        rw [kind, ofFields?, withDefault?_text_iff.mpr hname, withDefault?_text_iff.mpr htext]
        rfl

/-- What is filled by some fields is filled by what is the same for its parts. -/
theorem IsFilledBy.congr {content : RevisionContent} {given given' : String → Option Document}
    (h : content.IsFilledBy given)
    (hsame : ∀ name ∈ partNames content.kind, given name = given' name) :
    content.IsFilledBy given' := by
  cases content with
  | question =>
      obtain ⟨htitle, htext, htags⟩ := h
      refine ⟨?_, ?_, ?_⟩
      · rwa [← hsame "title" (by simp [partNames, kind])]
      · rwa [← hsame "original_text" (by simp [partNames, kind])]
      · rwa [← hsame "tags" (by simp [partNames, kind])]
  | answer =>
      rw [IsFilledBy] at h ⊢
      rwa [← hsame "original_text" (by simp [partNames, kind])]
  | tag =>
      obtain ⟨hname, htext⟩ := h
      refine ⟨?_, ?_⟩
      · rwa [← hsame "slug_name" (by simp [partNames, kind])]
      · rwa [← hsame "original_text" (by simp [partNames, kind])]

/-- **A content is decoded as it is given**, and as no other kind. -/
theorem ofDocument?_eq_some_iff {content : RevisionContent} :
    ofDocument? kind d = some content ↔ content.kind = kind ∧ content.IsGivenBy d := by
  rw [ofDocument?_eq]
  by_cases hkind : content.kind = kind
  · subst hkind
    rw [record?_bind_eq_some_iff (nodup_partNames _) (fun _ => content.IsFilledBy)
      (fun fields => ?_) fun hsame hfilled => hfilled.congr hsame]
    · exact (and_iff_right rfl).symm
    · rw [ofFields?_eq_some_iff, and_iff_right rfl]
  · constructor
    · intro h
      obtain ⟨fields, -, h⟩ := Option.bind_eq_some_iff.mp h
      exact absurd (ofFields?_eq_some_iff.mp h).1 hkind
    · rintro ⟨hsame, -⟩
      exact absurd hsame hkind

/-- **A text is decoded as the content that it spells.** -/
theorem decode_eq_ok_iff {content : RevisionContent} :
    decode kind text = .ok content ↔
      content.kind = kind ∧ ∃ d, d.IsSpelled text ∧ content.IsGivenBy d := by
  have hcomment : content.kind ≠ .comment := by cases content <;> simp [RevisionContent.kind]
  have hdocument : (read? text).bind (ofDocument? kind) = some content ↔
      content.kind = kind ∧ ∃ d, d.IsSpelled text ∧ content.IsGivenBy d := by
    simp only [Option.bind_eq_some_iff, read?_eq_some_iff, ofDocument?_eq_some_iff]
    constructor
    · rintro ⟨d, hspelled, hkind, hgiven⟩
      exact ⟨hkind, d, hspelled, hgiven⟩
    · rintro ⟨hkind, d, hspelled, hgiven⟩
      exact ⟨d, hspelled, hkind, hgiven⟩
  rw [← hdocument, decode]
  by_cases hkind : kind = .comment
  · rw [if_pos hkind]
    constructor
    · intro h
      cases h
    · intro h
      exact absurd ((hdocument.mp h).1.trans hkind) hcomment
  · rw [if_neg hkind]
    cases (read? text).bind (ofDocument? kind) with
    | none => simp
    | some decoded => simp

/-- What is not decoded is malformed. -/
theorem decode_eq_malformed (hkind : kind ≠ .comment)
    (h : ∀ content, decode kind text ≠ .ok content) :
    decode kind text = .error .malformed := by
  rw [decode, if_neg hkind] at h ⊢
  cases hdecoded : (read? text).bind (ofDocument? kind) with
  | none => rfl
  | some decoded =>
      rw [hdecoded] at h
      exact absurd rfl (h decoded)

/-! ### What is refused -/

/-- What is given for a text is a string. -/
theorem isString_of_fills {s : String} {value : Document} (h : Fills IsText "" (some value) s) :
    IsString value := ⟨some s, h⟩

/-- What names a tag may stand for one. -/
theorem NamesTag.fitsTag {name : String} (h : NamesTag d name) : FitsTag d := by
  obtain ⟨given, hgives, hname⟩ := h
  refine ⟨?_, fun hmisgives => ?_⟩
  · cases hgives with
    | object => exact .inl ⟨_, rfl⟩
    | array => exact .inr ⟨_, rfl⟩
  · obtain ⟨part, hpart, value, hvalue, hfits⟩ := hgives.of_misgives hmisgives
    obtain rfl : part = "slug_name" := List.mem_singleton.mp hpart
    rw [hvalue] at hname
    exact hfits (isString_of_fills hname)

/-- What is given for a part of a content may stand for it. -/
theorem fitsPart_of_isFilledBy {content : RevisionContent} {given : String → Option Document}
    {name : String} {value : Document} (h : content.IsFilledBy given)
    (hname : name ∈ partNames content.kind) (hvalue : given name = some value) :
    FitsPart name value := by
  have htext : ∀ s, Fills IsText "" (given name) s → name ≠ "tags" → FitsPart name value := by
    intro s hfills htags
    rw [hvalue] at hfills
    rw [FitsPart, if_neg htags]
    exact isString_of_fills hfills
  cases content with
  | question title originalText tags =>
      obtain ⟨htitle, horiginal, htags⟩ := h
      simp only [partNames, RevisionContent.kind, List.mem_cons, List.not_mem_nil,
        or_false] at hname
      rcases hname with rfl | rfl | rfl
      · exact htext _ htitle (by decide)
      · exact htext _ horiginal (by decide)
      · rw [hvalue] at htags
        have hlist : IsList NamesTag value tags := htags
        obtain ⟨items, rfl, -⟩ := htags
        rw [FitsPart, if_pos rfl]
        refine ⟨items, rfl, fun item hitem => ?_⟩
        obtain ⟨name, hnames⟩ := hlist.exists_of_mem hitem
        exact hnames.fitsTag
  | answer originalText =>
      obtain rfl : name = "original_text" := List.mem_singleton.mp hname
      exact htext _ h (by decide)
  | tag slugName originalText =>
      obtain ⟨hslug, horiginal⟩ := h
      simp only [partNames, RevisionContent.kind, List.mem_cons, List.not_mem_nil,
        or_false] at hname
      rcases hname with rfl | rfl
      · exact htext _ hslug (by decide)
      · exact htext _ horiginal (by decide)

/-- A content is given by an object or array. -/
theorem IsGivenBy.isRecord {content : RevisionContent} (h : content.IsGivenBy d) : IsRecord d := by
  obtain ⟨given, hgives, -⟩ := h
  cases hgives with
  | object => exact .inl ⟨_, rfl⟩
  | array => exact .inr ⟨_, rfl⟩

/-- **What breaks the rules of a content** is malformed. -/
theorem decode_of_misgives (hkind : kind ≠ .comment) (hspelled : d.IsSpelled text)
    (hd : ¬ IsRecord d ∨ d.Misgives (partNames kind) FitsPart) :
    decode kind text = .error .malformed := by
  refine decode_eq_malformed hkind fun content hdecode => ?_
  obtain ⟨rfl, d', hspelled', hgiven⟩ := decode_eq_ok_iff.mp hdecode
  obtain rfl := hspelled'.unique hspelled
  rcases hd with hrecord | hmisgives
  · exact hrecord hgiven.isRecord
  · obtain ⟨given, hgives, hfilled⟩ := hgiven
    obtain ⟨name, hname, value, hvalue, hfits⟩ := hgives.of_misgives hmisgives
    exact hfits (fitsPart_of_isFilledBy hfilled hname hvalue)

/-- **What has more than blanks behind a content** is malformed. -/
theorem decode_append {rest : String} (hkind : kind ≠ .comment) (hspelled : d.IsSpelled text)
    (hd : IsRecord d) (hrest : ¬ IsSpacing rest.toList) :
    decode kind (text ++ rest) = .error .malformed := by
  have hnumber : ∀ n, d ≠ .number n := by
    rintro n rfl
    rcases hd with ⟨_, h⟩ | ⟨_, h⟩ <;> cases h
  rw [decode, if_neg hkind, read?_append_eq_none hspelled hnumber hrest]
  rfl

/-- **That a text is decoded exactly**, and displayed with any object. -/
structure DecodesExactly (text : String) (info : ObjectInfo) : Prop where
  /-- Every text that spells a content in any way is decoded as it, and no other text is. -/
  decoded : ∀ content : RevisionContent, decode content.kind text = .ok content ↔
    ∃ d, d.IsSpelled text ∧ content.IsGivenBy d
  /-- A question displays its title, the slug names of its tags and its text. -/
  question : ∀ (title originalText : String) (tags : List String) (d : Document),
    d.IsSpelled text → (question title originalText tags).IsGivenBy d →
      (decode .question text).map (toDetail info) = .ok ⟨title, tags, originalText⟩
  /-- An answer displays the title of the object. -/
  answer : ∀ (originalText : String) (d : Document),
    d.IsSpelled text → (answer originalText).IsGivenBy d →
      (decode .answer text).map (toDetail info) = .ok ⟨info.title, [], originalText⟩
  /-- A tag displays its slug name for a title. -/
  tag : ∀ (slugName originalText : String) (d : Document),
    d.IsSpelled text → (tag slugName originalText).IsGivenBy d →
      (decode .tag text).map (toDetail info) = .ok ⟨slugName, [], originalText⟩
  /-- A part that is given twice or as something else makes the text malformed, and so does one that
  is of a tag in a question. -/
  misgiven : ∀ (kind : ObjectKind) (d : Document), kind ≠ .comment → d.IsSpelled text →
    ¬ IsRecord d ∨ d.Misgives (partNames kind) FitsPart → decode kind text = .error .malformed
  /-- More than blanks behind an object or array makes the text malformed. -/
  trailing : ∀ (kind : ObjectKind) (d : Document) (rest : String), kind ≠ .comment →
    d.IsSpelled text → IsRecord d → ¬ IsSpacing rest.toList →
      decode kind (text ++ rest) = .error .malformed

/-- **Content is decoded exactly**, from every text and however it is spelled. -/
theorem decodesExactly (text : String) (info : ObjectInfo) : DecodesExactly text info := by
  have hdecoded : ∀ content : RevisionContent, decode content.kind text = .ok content ↔
      ∃ d, d.IsSpelled text ∧ content.IsGivenBy d := by
    intro content
    rw [decode_eq_ok_iff]
    exact and_iff_right rfl
  have hdetail : ∀ (content : RevisionContent) (d : Document), d.IsSpelled text →
      content.IsGivenBy d →
        (decode content.kind text).map (toDetail info) = .ok (content.toDetail info) := by
    intro content d hspelled hgiven
    rw [(hdecoded content).mpr ⟨d, hspelled, hgiven⟩]
    rfl
  exact {
    decoded := hdecoded
    question := fun title originalText tags => hdetail (.question title originalText tags)
    answer := fun originalText => hdetail (.answer originalText)
    tag := fun slugName originalText => hdetail (.tag slugName originalText)
    misgiven := fun _ _ hkind => decode_of_misgives hkind
    trailing := fun _ _ _ hkind => decode_append hkind }

-- names in another order, one of them with an escape, and a member of another name
example :
    decode .tag "\x7b\"original_text\": \"A page\", \"x\": [], \"slug\\u005fname\": \"rust\"\x7d" =
      .ok (.tag "rust" "A page") := by cbv

end RevisionContent

end TagTimeline
