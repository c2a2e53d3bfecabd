import TagTimeline.Proofs.Json.Giving
import TagTimeline.Tag.Catalog

/-!
# The Reception of Requests

What becomes of a text that a client sends for a request. It is read as a document, the request is
taken from the document, and the rules of the request are checked: so a text is malformed, or it is
a request that breaks some rules and is told which, or it is accepted.

A text is taken exactly as far as it spells a record with the fields of the request. Numbers are
whole and have 64 bits, fields that are left out have their defaults, and neither the order of an
object's members nor members of other names make a difference. The names of an object's members are
texts; one that spells half of a surrogate pair is none.

The catalog checks the rules again and before anything else. What it asks the store for is therefore
in bounds, and the bounds that the store sets to pages of its own make no difference.

## Main results

* `TagPageRequest.ofDocument?_eq_some_iff`, `SearchRequest.ofDocument?_eq_some_iff` — which
  documents give a request.
* `TagPageRequest.mem_fields_violations_iff`, `SearchRequest.mem_fields_violations_iff` — which
  fields are told to be out of range.
* `Catalog.receives_requests` — what becomes of every text.
-/

namespace TagTimeline

open Json Json.Document

/-- **What becomes of a text** that is sent for a request. -/
inductive Reception (Request : Type) where
  /-- The text is no such request. -/
  | malformed
  /-- The text is a request, but one that breaks rules. -/
  | refused (request : Request) (violations : Violations)
  | accepted (request : Request)

namespace Reception

variable {Request : Type} {ofDocument? : Document → Option Request}
  {violations : Request → Violations} {text : String} {request : Request}

/-- **Receives a text**: the request is taken from it first, and its rules are checked then. -/
def ofText (ofDocument? : Document → Option Request) (violations : Request → Violations)
    (text : String) : Reception Request :=
  match (read? text).bind ofDocument? with
  | none => malformed
  | some request =>
      match violations request with
      | [] => accepted request
      | broken => refused request broken

/-- A text is accepted as a request that breaks no rule. -/
theorem ofText_eq_accepted_iff :
    ofText ofDocument? violations text = accepted request ↔
      (read? text).bind ofDocument? = some request ∧ violations request = [] := by
  rw [ofText]
  cases (read? text).bind ofDocument? with
  | none => simp
  | some taken => cases hbroken : violations taken <;> grind

/-- A text is refused as a request that breaks rules, with these rules. -/
theorem ofText_eq_refused_iff {broken : Violations} :
    ofText ofDocument? violations text = refused request broken ↔
      (read? text).bind ofDocument? = some request ∧ violations request = broken ∧ broken ≠ [] := by
  rw [ofText]
  cases (read? text).bind ofDocument? with
  | none => simp
  | some taken => cases hbroken : violations taken <;> grind

/-- A text is malformed if no request is in it. -/
theorem ofText_eq_malformed_iff :
    ofText ofDocument? violations text = malformed ↔ (read? text).bind ofDocument? = none := by
  rw [ofText]
  cases (read? text).bind ofDocument? with
  | none => simp
  | some taken => cases hbroken : violations taken <;> simp [hbroken]

/-- **That texts are received exactly** as requests with some fields: which documents give a
request, and which of its fields can be out of range. -/
structure IsExact (fieldNames : List String) (receive : String → Reception Request)
    (IsGivenBy : Request → Document → Prop) (OutOfRange : Request → String → Prop) : Prop where
  /-- Every text that spells a request in any way is accepted if no field is out of range, and no
  other text is. -/
  accepts : ∀ text request, receive text = accepted request ↔
    (∃ d, d.IsSpelled text ∧ IsGivenBy request d) ∧ ∀ field, ¬ OutOfRange request field
  /-- A text that spells a request with a field out of range is refused. -/
  refuses : ∀ text request, (∃ broken, receive text = refused request broken) ↔
    (∃ d, d.IsSpelled text ∧ IsGivenBy request d) ∧ ∃ field, OutOfRange request field
  /-- A refusal names the fields that are out of range, each once and no other. -/
  names : ∀ text request broken, receive text = refused request broken →
    (broken.map Prod.fst).Nodup ∧
      ∀ field, field ∈ broken.map Prod.fst ↔ OutOfRange request field
  /-- Every other text is malformed. -/
  otherwise : ∀ text, receive text = malformed ↔
    ∀ d, d.IsSpelled text → ∀ request, ¬ IsGivenBy request d
  /-- An object is received like one with its members in another order, or with more members of
  names that are no fields. -/
  members : ∀ (members more unknown : List (Spelling × Document)) (text text' : String),
    (object members).IsSpelled text → (object more).IsSpelled text' →
    more.Perm (members ++ unknown) →
    (∀ m ∈ unknown, ∃ name, m.1 = some name ∧ name ∉ fieldNames) → receive text' = receive text

/-- No rule is broken if no field is out of range. -/
theorem violations_eq_nil_iff_of_fields {broken : Violations} {OutOfRange : String → Prop}
    (h : ∀ field, field ∈ broken.map Prod.fst ↔ OutOfRange field) :
    broken = [] ↔ ∀ field, ¬ OutOfRange field := by
  simp only [← h, ← List.eq_nil_iff_forall_not_mem, List.map_eq_nil_iff]

/-- **Texts are received exactly** if requests are taken from the documents that give them and the
rules that are broken are on the fields out of range. -/
theorem isExact_ofText {fieldNames : List String}
    {IsFilledBy : Request → Prop → (String → Option Document) → Prop}
    {OutOfRange : Request → String → Prop}
    (hgiven : ∀ d request, ofDocument? d = some request ↔
      ∃ given, d.Gives fieldNames given ∧ IsFilledBy request d.IsObject given)
    (hnodup : ∀ request, ((violations request).map Prod.fst).Nodup)
    (hfields : ∀ request field,
      field ∈ (violations request).map Prod.fst ↔ OutOfRange request field) :
    IsExact fieldNames (ofText ofDocument? violations)
      (fun request d => ∃ given, d.Gives fieldNames given ∧ IsFilledBy request d.IsObject given)
      OutOfRange := by
  have htaken : ∀ text request, (read? text).bind ofDocument? = some request ↔
      ∃ d : Document, d.IsSpelled text ∧ ∃ given, d.Gives fieldNames given ∧
        IsFilledBy request d.IsObject given := by
    intro text request
    simp only [Option.bind_eq_some_iff, read?_eq_some_iff, hgiven]
  have hnone : ∀ request, violations request = [] ↔ ∀ field, ¬ OutOfRange request field :=
    fun request => violations_eq_nil_iff_of_fields (hfields request)
  refine ⟨fun text request => ?_, fun text request => ?_, fun text request broken h => ?_,
    fun text => ?_, fun members more unknown text text' hspelled hspelled' hperm hunknown => ?_⟩
  · rw [ofText_eq_accepted_iff, htaken, hnone]
  · simp only [ofText_eq_refused_iff, htaken]
    constructor
    · rintro ⟨broken, hspelled, rfl, hbroken⟩
      rw [ne_eq, hnone, not_forall_not] at hbroken
      exact ⟨hspelled, hbroken⟩
    · rintro ⟨hspelled, hfield⟩
      rw [← not_forall_not, ← hnone] at hfield
      exact ⟨_, hspelled, rfl, hfield⟩
  · obtain ⟨-, rfl, -⟩ := ofText_eq_refused_iff.mp h
    exact ⟨hnodup request, hfields request⟩
  · simp only [ofText_eq_malformed_iff, Option.eq_none_iff_forall_ne_some, ne_eq, htaken,
      not_exists, not_and]
    exact ⟨fun h d hspelled request => h request d hspelled,
      fun h request d hspelled => h d hspelled request⟩
  · have hsame : ofDocument? (object more) = ofDocument? (object members) := by
      refine Option.ext fun request => ?_
      rw [hgiven, hgiven]
      refine exists_congr fun given => ?_
      rw [gives_object_iff_of_perm hperm hunknown]
      simp only [IsObject, object.injEq, exists_eq']
    rw [ofText, ofText, read?_eq_some_iff.mpr hspelled, read?_eq_some_iff.mpr hspelled',
      Option.bind_some, Option.bind_some, hsame]

end Reception

namespace Violation

variable {field name : String} {least value : UInt64} {most : Option UInt64}

/-- A check of a range names its own field, if it names one. -/
theorem fields_checkRange_sublist (field : String) (least : UInt64) (most : Option UInt64)
    (value : UInt64) : ((checkRange field least most value).map Prod.fst).Sublist [field] := by
  rw [checkRange]
  split
  · exact List.nil_sublist [field]
  · exact List.Sublist.refl [field]

/-- **A check of a range names its field** if the number is out of it. -/
theorem mem_fields_checkRange_iff :
    name ∈ (checkRange field least most value).map Prod.fst ↔
      name = field ∧ (value < least ∨ ∃ m, most = some m ∧ m < value) := by
  have hrange : (value < least ∨ ∃ m, most = some m ∧ m < value) ↔
      checkRange field least most value ≠ [] := by
    rw [ne_eq, checkRange_eq_nil_iff, not_and_or, UInt64.not_le]
    simp only [not_forall, UInt64.not_le, exists_prop]
  rw [hrange]
  rcases List.sublist_singleton.mp (fields_checkRange_sublist field least most value) with h | h
  · rw [h]
    simp [List.map_eq_nil_iff.mp h]
  · rw [h, List.mem_singleton]
    refine (and_iff_left fun hnil => ?_).symm
    rw [hnil] at h
    cases h

end Violation

/-! ### Requests for pages -/

namespace TagPageRequest

/-- The names of the fields, in the order of declaration. -/
def fieldNames : List String := ["page", "page_size", "slug_name", "query_cond"]

/-- **That a request has the fields that are given.** A field that is not given has its default; a
search text that is not given, or given as `null`, is none. -/
def IsFilledBy (request : TagPageRequest) (mayMiss : Prop) (given : String → Option Document) :
    Prop :=
  Fills IsCount 1 (given "page") request.page ∧
    Fills IsCount 20 (given "page_size") request.pageSize ∧
    FillsOptional IsText mayMiss (given "slug_name") request.slugName ∧
    Fills IsText "" (given "query_cond") request.queryCond

/-- **That a document gives a request.** Only an object may leave out the search text: an array may
stop before a field with a default, and an absent search text is none. -/
def IsGivenBy (request : TagPageRequest) (d : Document) : Prop :=
  ∃ given, d.Gives fieldNames given ∧ request.IsFilledBy d.IsObject given

/-- **That a field is out of range**: there is no page before the first, and a page has from 1 to
100 tags. -/
def OutOfRange (request : TagPageRequest) (field : String) : Prop :=
  field = "page" ∧ request.page < 1 ∨
    field = "page_size" ∧ (request.pageSize < 1 ∨ 100 < request.pageSize)

/-- **Receives a text** sent for a page of tags. -/
def receive : String → Reception TagPageRequest := Reception.ofText ofDocument? violations

/-- **A request is taken from the documents that give it.** -/
theorem ofDocument?_eq_some_iff {d : Document} {request : TagPageRequest} :
    ofDocument? d = some request ↔ request.IsGivenBy d := by
  have hnodup : fieldNames.Nodup := by decide
  refine record?_bind_eq_some_iff hnodup request.IsFilledBy (fun fields => ?_)
    fun {mayMiss given given'} hsame h => ?_
  · simp only [IsFilledBy, ← withDefault?_count_iff, ← withDefault?_text_iff, ← optional?_text_iff]
    constructor
    · intro h
      obtain ⟨page, hpage, h⟩ := Option.bind_eq_some_iff.mp h
      obtain ⟨pageSize, hsize, h⟩ := Option.bind_eq_some_iff.mp h
      obtain ⟨slugName, hslug, h⟩ := Option.bind_eq_some_iff.mp h
      obtain ⟨queryCond, hcond, h⟩ := Option.bind_eq_some_iff.mp h
      cases h
      exact ⟨hpage, hsize, hslug, hcond⟩
    · rintro ⟨hpage, hsize, hslug, hcond⟩
      rw [hpage, hsize, hslug, hcond]
      rfl
  · obtain ⟨hpage, hsize, hslug, hcond⟩ := h
    rw [IsFilledBy, ← hsame "page" (by decide), ← hsame "page_size" (by decide),
      ← hsame "slug_name" (by decide), ← hsame "query_cond" (by decide)]
    exact ⟨hpage, hsize, hslug, hcond⟩

/-- No field is named twice. -/
theorem nodup_fields_violations (request : TagPageRequest) :
    (request.violations.map Prod.fst).Nodup := by
  have hnodup : ["page", "page_size"].Nodup := by decide
  rw [violations, List.map_append]
  exact hnodup.sublist ((Violation.fields_checkRange_sublist _ _ _ _).append
    (Violation.fields_checkRange_sublist _ _ _ _))

/-- **The fields that are named** are those out of range. -/
theorem mem_fields_violations_iff {request : TagPageRequest} {field : String} :
    field ∈ request.violations.map Prod.fst ↔ request.OutOfRange field := by
  rw [violations, List.map_append, List.mem_append, Violation.mem_fields_checkRange_iff,
    Violation.mem_fields_checkRange_iff, OutOfRange]
  simp [mostTags]

/-- A request breaks no rule if no field is out of range. -/
theorem violations_eq_nil_iff_inRange {request : TagPageRequest} :
    request.violations = [] ↔ ∀ field, ¬ request.OutOfRange field :=
  Reception.violations_eq_nil_iff_of_fields fun _ => mem_fields_violations_iff

end TagPageRequest

/-! ### Requests for completions -/

namespace SearchRequest

/-- The names of the fields, in the order of declaration. -/
def fieldNames : List String := ["name", "limit", "has_reserved"]

/-- **That a request has the fields that are given.** A field that is not given has its default. -/
def IsFilledBy (request : SearchRequest) (_ : Prop) (given : String → Option Document) : Prop :=
  Fills IsText "" (given "name") request.name ∧
    Fills IsCount 5 (given "limit") request.limit ∧
    Fills IsFlag false (given "has_reserved") request.hasReserved

/-- **That a document gives a request.** -/
def IsGivenBy (request : SearchRequest) (d : Document) : Prop :=
  ∃ given, d.Gives fieldNames given ∧ request.IsFilledBy d.IsObject given

/-- **That a field is out of range**: from 1 to 100 tags can be asked for. -/
def OutOfRange (request : SearchRequest) (field : String) : Prop :=
  field = "limit" ∧ (request.limit < 1 ∨ 100 < request.limit)

/-- **Receives a text** sent to complete a name. -/
def receive : String → Reception SearchRequest := Reception.ofText ofDocument? violations

/-- **A request is taken from the documents that give it.** -/
theorem ofDocument?_eq_some_iff {d : Document} {request : SearchRequest} :
    ofDocument? d = some request ↔ request.IsGivenBy d := by
  have hnodup : fieldNames.Nodup := by decide
  refine record?_bind_eq_some_iff hnodup request.IsFilledBy (fun fields => ?_)
    fun {mayMiss given given'} hsame h => ?_
  · simp only [IsFilledBy, ← withDefault?_count_iff, ← withDefault?_text_iff,
      ← withDefault?_flag_iff]
    constructor
    · intro h
      obtain ⟨name, hname, h⟩ := Option.bind_eq_some_iff.mp h
      obtain ⟨limit, hlimit, h⟩ := Option.bind_eq_some_iff.mp h
      obtain ⟨hasReserved, hreserved, h⟩ := Option.bind_eq_some_iff.mp h
      cases h
      exact ⟨hname, hlimit, hreserved⟩
    · rintro ⟨hname, hlimit, hreserved⟩
      rw [hname, hlimit, hreserved]
      rfl
  · obtain ⟨hname, hlimit, hreserved⟩ := h
    rw [IsFilledBy, ← hsame "name" (by decide), ← hsame "limit" (by decide),
      ← hsame "has_reserved" (by decide)]
    exact ⟨hname, hlimit, hreserved⟩

/-- No field is named twice. -/
theorem nodup_fields_violations (request : SearchRequest) :
    (request.violations.map Prod.fst).Nodup := by
  have hnodup : ["limit"].Nodup := by decide
  exact hnodup.sublist (Violation.fields_checkRange_sublist _ _ _ _)

/-- **The fields that are named** are those out of range. -/
theorem mem_fields_violations_iff {request : SearchRequest} {field : String} :
    field ∈ request.violations.map Prod.fst ↔ request.OutOfRange field := by
  rw [violations, Violation.mem_fields_checkRange_iff, OutOfRange]
  simp [mostTags]

/-- A request breaks no rule if no field is out of range. -/
theorem violations_eq_nil_iff_inRange {request : SearchRequest} :
    request.violations = [] ↔ ∀ field, ¬ request.OutOfRange field :=
  Reception.violations_eq_nil_iff_of_fields fun _ => mem_fields_violations_iff

end SearchRequest

/-! ### What the catalog does with requests -/

namespace TagQuery

/-- A page of tags by its number and size as they are, without bounds of its own. -/
def unboundedPage (page pageSize : UInt64) (filter : TagFilter) (sort : TagSort) (rows : List Tag) :
    List Tag × Nat :=
  let all := rows.filter (pageable filter)
  (limited pageSize (skipping (pageSize * (page - 1)) (sort.apply all)), all.length)

/-- **The bounds of a page make no difference** to a page that there can be, of a size that has
place for a tag. -/
theorem page_eq_unboundedPage {page pageSize : UInt64} (hpage : 1 ≤ page) (hsize : 1 ≤ pageSize)
    (filter : TagFilter) (sort : TagSort) (rows : List Tag) :
    TagQuery.page page pageSize filter sort rows =
      unboundedPage page pageSize filter sort rows := by
  have hmax : max pageSize 1 = pageSize := by
    rw [← UInt64.toNat_inj, UInt64.toNat_max]
    exact Nat.max_eq_left (UInt64.le_iff_toNat_le.mp hsize)
  have hzero : page ≠ 0 := by
    rintro rfl
    exact absurd hpage (by decide)
  rw [TagQuery.page, cut, hmax, pageStart, if_neg hzero, unboundedPage]

end TagQuery

namespace Catalog

/-- A page is refused whose request breaks rules. -/
theorem getTagPage_of_violations {request : TagPageRequest} (h : request.violations ≠ [])
    (source : SettingSource) (s : Store) :
    getTagPage source request s = .error (refusal request.violations) := by
  rw [getTagPage]
  split
  · next hnone => exact absurd hnone h
  · rfl

/-- A completion is refused whose request breaks rules. -/
theorem searchTags_of_violations {request : SearchRequest} (h : request.violations ≠ [])
    (source : SettingSource) (s : Store) :
    searchTags source request s = .error (refusal request.violations) := by
  rw [searchTags]
  split
  · next hnone => exact absurd hnone h
  · rfl

/-- **How the catalog receives requests** for pages and completions. -/
structure ReceivesRequests : Prop where
  pages : Reception.IsExact TagPageRequest.fieldNames TagPageRequest.receive
    TagPageRequest.IsGivenBy TagPageRequest.OutOfRange
  searches : Reception.IsExact SearchRequest.fieldNames SearchRequest.receive
    SearchRequest.IsGivenBy SearchRequest.OutOfRange
  /-- A request for a page with a field out of range is refused, whatever is stored, and be it
  nothing at all. -/
  pageRefused : ∀ (request : TagPageRequest) (field : String), request.OutOfRange field →
    ∀ source s, getTagPage source request s = .error (refusal request.violations)
  /-- So is one to complete a name. -/
  searchRefused : ∀ (request : SearchRequest) (field : String), request.OutOfRange field →
    ∀ source s, searchTags source request s = .error (refusal request.violations)
  /-- A request for a page in range is answered with the page by its number and size as they are. -/
  pageAnswered : ∀ request : TagPageRequest, (∀ field, ¬ request.OutOfRange field) →
    ∀ source s, getTagPage source request s =
      s.select "count tag page" fun rows =>
        let (tags, count) := TagQuery.unboundedPage request.page request.pageSize
          { slugName := request.slugName.filter (· ≠ "") } (TagSort.ofQuery request.queryCond) rows
        (tags.map (Tag.masked (source.effective s)), count)

/-- **Requests are accepted exactly if they are well-formed and in range.** A text that spells a
request is accepted, or it is refused with the fields that are out of range; every other text is
malformed. The catalog refuses what is out of range before it reads anything, and what is in range
the store takes as it is. -/
theorem receives_requests : ReceivesRequests where
  pages := Reception.isExact_ofText (fun _ _ => TagPageRequest.ofDocument?_eq_some_iff)
    TagPageRequest.nodup_fields_violations fun _ _ => TagPageRequest.mem_fields_violations_iff
  searches := Reception.isExact_ofText (fun _ _ => SearchRequest.ofDocument?_eq_some_iff)
    SearchRequest.nodup_fields_violations fun _ _ => SearchRequest.mem_fields_violations_iff
  pageRefused := by
    intro request field hfield source s
    have hbroken : request.violations ≠ [] := fun hnone =>
      TagPageRequest.violations_eq_nil_iff_inRange.mp hnone field hfield
    exact getTagPage_of_violations hbroken source s
  searchRefused := by
    intro request field hfield source s
    have hbroken : request.violations ≠ [] := fun hnone =>
      SearchRequest.violations_eq_nil_iff_inRange.mp hnone field hfield
    exact searchTags_of_violations hbroken source s
  pageAnswered := by
    intro request hrange source s
    have hnone : request.violations = [] := TagPageRequest.violations_eq_nil_iff_inRange.mpr hrange
    obtain ⟨hpage, hsize, -⟩ := request.violations_eq_nil_iff.mp hnone
    rw [getTagPage, hnone]
    simp only [Store.tagPage, TagQuery.page_eq_unboundedPage hpage hsize]

-- an array that stops before the search text, which has no default
example : TagPageRequest.receive "[1, 20]" = .malformed := by cbv

end Catalog

end TagTimeline
