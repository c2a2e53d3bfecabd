import TagTimeline.Proofs.Tag.Masking

/-!
# Filtering Tags

A filter is a conjunction of its fields: it chooses the available tags that hold, in every field
that is set, what the field is set to. What a tag holds is what is stored, also where readers do
not see it. A tag without a link holds nothing in the two fields of the link, and nothing is not
the empty text.

Fields have no part in each other. So two filters that set different fields choose together what
both choose, and a filter that sets more fields chooses fewer tags.

## Main results

* `TagFilter.accepts_iff_metBy` — a filter accepts a tag exactly if every set field is met.
* `TagFilter.metBy_combined_iff` — a combined filter is met exactly if both filters are.
* `Store.filtersBy_table` — what every filter is answered from every table.
-/

namespace TagTimeline

/-- **The fields by which tags can be asked for.** -/
inductive TagField where
  | id
  | slugName
  | displayName
  | originalText
  | parsedText
  | mainTagId
  | mainTagSlugName
  | recommend
  | reserved
  | followCount
  | questionCount
  | revisionId
  deriving DecidableEq, Repr

/-- What a field of a tag can hold. -/
inductive FieldValue where
  | text (s : String)
  | flag (b : Bool)
  | number (n : Int32)
  deriving DecidableEq, Repr

/-- **What a tag holds in a field**, as it is stored. A tag without a link holds nothing there. -/
def Tag.held? (tag : Tag) : TagField → Option FieldValue
  | .id => some (.text tag.id)
  | .slugName => some (.text tag.slugName)
  | .displayName => some (.text tag.displayName)
  | .originalText => some (.text tag.originalText)
  | .parsedText => some (.text tag.parsedText)
  | .mainTagId => tag.mainTagId.map .text
  | .mainTagSlugName => tag.mainTagSlugName.map .text
  | .recommend => some (.flag tag.recommend)
  | .reserved => some (.flag tag.reserved)
  | .followCount => some (.number tag.followCount)
  | .questionCount => some (.number tag.questionCount)
  | .revisionId => some (.text tag.revisionId)

namespace TagFilter

/-- **What a filter sets a field to**, if it does. -/
def wanted? (filter : TagFilter) : TagField → Option FieldValue
  | .id => filter.id.map .text
  | .slugName => filter.slugName.map .text
  | .displayName => filter.displayName.map .text
  | .originalText => filter.originalText.map .text
  | .parsedText => filter.parsedText.map .text
  | .mainTagId => filter.mainTagId.map .text
  | .mainTagSlugName => filter.mainTagSlugName.map .text
  | .recommend => filter.recommend.map .flag
  | .reserved => filter.reserved.map .flag
  | .followCount => filter.followCount.map .number
  | .questionCount => filter.questionCount.map .number
  | .revisionId => filter.revisionId.map .text

/-- **That a tag meets a filter**: it holds in every field what the field is set to. -/
def MetBy (filter : TagFilter) (tag : Tag) : Prop :=
  ∀ field value, filter.wanted? field = some value → tag.held? field = some value

/-- **That two filters set no field both.** -/
def Apart (a b : TagFilter) : Prop := ∀ field, a.wanted? field = none ∨ b.wanted? field = none

/-- **That a filter sets at least the fields of another one**, and to the same values. -/
def Extends (more filter : TagFilter) : Prop :=
  ∀ field value, filter.wanted? field = some value → more.wanted? field = some value

/-- Two filters in one. Where both set a field the first one counts. -/
def combined (a b : TagFilter) : TagFilter where
  id := a.id.or b.id
  slugName := a.slugName.or b.slugName
  displayName := a.displayName.or b.displayName
  mainTagId := a.mainTagId.or b.mainTagId
  mainTagSlugName := a.mainTagSlugName.or b.mainTagSlugName
  recommend := a.recommend.or b.recommend
  reserved := a.reserved.or b.reserved
  originalText := a.originalText.or b.originalText
  parsedText := a.parsedText.or b.parsedText
  followCount := a.followCount.or b.followCount
  questionCount := a.questionCount.or b.questionCount
  revisionId := a.revisionId.or b.revisionId

/-! ### Field by field -/

section

variable {α : Type} [DecidableEq α] {wrap : α → FieldValue}

/-- A field that may be absent agrees exactly if its value is met. -/
theorem agreesWithin_iff_met (hwrap : Function.Injective wrap) {wanted held : Option α} :
    agreesWithin wanted held = true ↔
      ∀ value, wanted.map wrap = some value → held.map wrap = some value := by
  rw [agreesWithin_iff]
  constructor
  · intro h value hvalue
    obtain ⟨w, hw, rfl⟩ := Option.map_eq_some_iff.mp hvalue
    rw [h w hw, Option.map_some]
  · intro h w hw
    have hheld : held.map wrap = some (wrap w) := h (wrap w) (by rw [hw, Option.map_some])
    obtain ⟨w', hw', hsame⟩ := Option.map_eq_some_iff.mp hheld
    rw [hw', hwrap hsame]

/-- A field agrees exactly if its value is met. -/
theorem agrees_iff_met (hwrap : Function.Injective wrap) {wanted : Option α} {held : α} :
    agrees wanted held = true ↔
      ∀ value, wanted.map wrap = some value → some (wrap held) = some value := by
  have hwithin : agrees wanted held = agreesWithin wanted (some held) := by
    rw [Bool.eq_iff_iff, agrees_iff, agreesWithin_iff]
    simp only [Option.some.injEq, eq_comm (a := held)]
  rw [hwithin]
  exact agreesWithin_iff_met hwrap

end

/-- **A filter accepts the tags that meet it.** -/
theorem accepts_iff_metBy {filter : TagFilter} {tag : Tag} :
    filter.accepts tag = true ↔ filter.MetBy tag := by
  have htext : Function.Injective FieldValue.text := fun _ _ => FieldValue.text.inj
  have hflag : Function.Injective FieldValue.flag := fun _ _ => FieldValue.flag.inj
  have hnumber : Function.Injective FieldValue.number := fun _ _ => FieldValue.number.inj
  simp only [accepts, Bool.and_eq_true, and_assoc, agrees_iff_met htext, agrees_iff_met hflag,
    agrees_iff_met hnumber, agreesWithin_iff_met htext]
  constructor
  · rintro ⟨hid, hslug, hname, hmain, hmainName, hrec, hres, horig, hparsed, hfollow, hquestion,
      hrev⟩ field
    cases field with
    | id => exact hid
    | slugName => exact hslug
    | displayName => exact hname
    | originalText => exact horig
    | parsedText => exact hparsed
    | mainTagId => exact hmain
    | mainTagSlugName => exact hmainName
    | recommend => exact hrec
    | reserved => exact hres
    | followCount => exact hfollow
    | questionCount => exact hquestion
    | revisionId => exact hrev
  · intro h
    exact ⟨h .id, h .slugName, h .displayName, h .mainTagId, h .mainTagSlugName, h .recommend,
      h .reserved, h .originalText, h .parsedText, h .followCount, h .questionCount, h .revisionId⟩

variable {a b filter more : TagFilter} {tag : Tag}

/-- A tag that holds nothing in a field meets no filter that sets it. -/
theorem MetBy.wanted?_eq_none (h : filter.MetBy tag) (field : TagField)
    (hheld : tag.held? field = none) : filter.wanted? field = none := by
  refine Option.eq_none_iff_forall_ne_some.mpr fun value hvalue => ?_
  rw [h field value hvalue] at hheld
  cases hheld

/-- A tag without a link meets no filter that sets it. -/
theorem MetBy.unlinked (h : filter.MetBy tag) :
    (tag.mainTagId = none → filter.mainTagId = none) ∧
      (tag.mainTagSlugName = none → filter.mainTagSlugName = none) := by
  constructor
  · intro hlink
    exact Option.map_eq_none_iff.mp
      (h.wanted?_eq_none .mainTagId (Option.map_eq_none_iff.mpr hlink))
  · intro hlink
    exact Option.map_eq_none_iff.mp
      (h.wanted?_eq_none .mainTagSlugName (Option.map_eq_none_iff.mpr hlink))

/-! ### Filters put together -/

/-- A tag that meets a filter meets every filter that sets less. -/
theorem MetBy.of_extends (h : more.MetBy tag) (hmore : more.Extends filter) : filter.MetBy tag :=
  fun field value hvalue => h field value (hmore field value hvalue)

/-- Each field of a combined filter is set by one of the two. -/
theorem wanted?_combined (a b : TagFilter) (field : TagField) :
    (a.combined b).wanted? field = (a.wanted? field).or (b.wanted? field) := by
  cases field <;> exact Option.map_or

/-- A combined filter sets the fields of the first filter. -/
theorem combined_extends_left (a b : TagFilter) : (a.combined b).Extends a := by
  intro field value hvalue
  rw [wanted?_combined, hvalue, Option.some_or]

/-- A combined filter sets the fields of the second filter if the first one leaves them. -/
theorem combined_extends_right (h : a.Apart b) : (a.combined b).Extends b := by
  intro field value hvalue
  have hfirst : a.wanted? field = none :=
    (h field).resolve_right (by rw [hvalue]; exact Option.some_ne_none value)
  rw [wanted?_combined, hfirst, Option.none_or, hvalue]

/-- **A combined filter is met** by the tags that meet both. -/
theorem metBy_combined_iff (h : a.Apart b) :
    (a.combined b).MetBy tag ↔ a.MetBy tag ∧ b.MetBy tag := by
  constructor
  · intro hboth
    exact ⟨hboth.of_extends (combined_extends_left a b),
      hboth.of_extends (combined_extends_right h)⟩
  · rintro ⟨ha, hb⟩ field value hvalue
    rw [wanted?_combined] at hvalue
    rcases Option.or_eq_some_iff.mp hvalue with hfirst | ⟨-, hsecond⟩
    · exact ha field value hfirst
    · exact hb field value hsecond

end TagFilter

namespace TagQuery

variable {a b filter more : TagFilter} {rows : List Tag} {tag : Tag}

/-- The tags chosen by a filter are the available ones that meet it. -/
theorem mem_filtered_iff :
    tag ∈ filtered filter rows ↔ tag ∈ rows ∧ tag.status = .available ∧ filter.MetBy tag := by
  rw [filtered, List.mem_filter, Bool.and_eq_true, TagFilter.accepts_iff_metBy, Tag.isAvailable,
    beq_iff_eq]

/-- **Two filters choose together** what both choose. -/
theorem mem_filtered_combined_iff (h : a.Apart b) :
    tag ∈ filtered (a.combined b) rows ↔ tag ∈ filtered a rows ∧ tag ∈ filtered b rows := by
  simp only [mem_filtered_iff, TagFilter.metBy_combined_iff h]
  constructor
  · rintro ⟨hrow, havailable, ha, hb⟩
    exact ⟨⟨hrow, havailable, ha⟩, hrow, havailable, hb⟩
  · rintro ⟨⟨hrow, havailable, ha⟩, -, -, hb⟩
    exact ⟨hrow, havailable, ha, hb⟩

/-- **A filter that sets more** chooses no other tags. -/
theorem filtered_subset (h : more.Extends filter) : filtered more rows ⊆ filtered filter rows := by
  intro tag htag
  obtain ⟨hrow, havailable, hmet⟩ := mem_filtered_iff.mp htag
  exact mem_filtered_iff.mpr ⟨hrow, havailable, hmet.of_extends h⟩

end TagQuery

namespace Store

/-- **That a store answers filters field by field** from some rows: which tags are chosen by each
filter, and how these choices go together. -/
structure FiltersBy (s : Store) (rows : List Tag) (chosen : TagFilter → List Tag) : Prop where
  /-- The chosen tags are answered. The setting has no part in the choice. -/
  answer : ∀ filter tagRequired,
    s.tagsWhere filter tagRequired = .ok ((chosen filter).map (Tag.masked tagRequired))
  mem : ∀ filter tag,
    tag ∈ chosen filter ↔ tag ∈ rows ∧ tag.status = .available ∧ filter.MetBy tag
  /-- Where ids are distinct, as the store keeps them, each tag is answered once. -/
  once : (rows.map Tag.id).Nodup → ∀ filter, ((chosen filter).map Tag.id).Nodup
  /-- A tag without a link equals none, whatever the link is set to. -/
  unlinked : ∀ filter, ∀ tag ∈ chosen filter,
    (tag.mainTagId = none → filter.mainTagId = none) ∧
      (tag.mainTagSlugName = none → filter.mainTagSlugName = none)
  /-- Filters that set no field both choose together what both choose. -/
  combined : ∀ a b, a.Apart b → ∀ tag,
    tag ∈ chosen (a.combined b) ↔ tag ∈ chosen a ∧ tag ∈ chosen b
  /-- So it is with what readers see of the tags. -/
  seen : (rows.map Tag.id).Nodup → ∀ a b, a.Apart b → ∀ tagRequired tag,
    tag ∈ (chosen (a.combined b)).map (Tag.masked tagRequired) ↔
      tag ∈ (chosen a).map (Tag.masked tagRequired) ∧
        tag ∈ (chosen b).map (Tag.masked tagRequired)
  /-- A filter that sets more fields chooses no other tags. -/
  fewer : ∀ filter more, more.Extends filter → chosen more ⊆ chosen filter

variable {rows : List Tag}

/-- What readers see of two tags with distinct ids is not the same, so that what they see in two
answers is what they see of the tags in both. -/
theorem mem_map_masked_inter_iff (hids : (rows.map Tag.id).Nodup) {both first second : List Tag}
    (hfirst : first ⊆ rows) (hsecond : second ⊆ rows)
    (hboth : ∀ tag, tag ∈ both ↔ tag ∈ first ∧ tag ∈ second) (tagRequired : Bool) (tag : Tag) :
    tag ∈ both.map (Tag.masked tagRequired) ↔
      tag ∈ first.map (Tag.masked tagRequired) ∧ tag ∈ second.map (Tag.masked tagRequired) := by
  simp only [List.mem_map]
  constructor
  · rintro ⟨stored, hstored, rfl⟩
    obtain ⟨h₁, h₂⟩ := (hboth stored).mp hstored
    exact ⟨⟨stored, h₁, rfl⟩, stored, h₂, rfl⟩
  · rintro ⟨⟨stored, h₁, rfl⟩, other, h₂, hsame⟩
    have hid : other.id = stored.id := by simpa only [Tag.masked_id] using congrArg Tag.id hsame
    obtain rfl := List.inj_on_of_nodup_map hids (hsecond h₂) (hfirst h₁) hid
    exact ⟨other, (hboth other).mpr ⟨h₁, h₂⟩, rfl⟩

/-- **A filter is the conjunction of its fields.** From every table, a filter is answered with the
available tags that hold in every field that is set what it is set to, each once; their
recommendations count as they are stored, whatever readers see of them. Two filters that set no
field both are answered together with what both are answered with, and a filter that sets more
fields is answered with no other tags. -/
theorem filtersBy_table (s : Store) (table : Table Tag) :
    ∃ chosen, ({ s with tags := some table } : Store).FiltersBy table.rows chosen := by
  have hrows : ({ s with tags := some table } : Store).rows? Tag = some table.rows := rfl
  have hsub : ∀ filter, TagQuery.filtered filter table.rows ⊆ table.rows :=
    fun _ => List.filter_subset_self _
  refine ⟨fun filter => TagQuery.filtered filter table.rows, {
    answer := fun filter tagRequired => readTags_eq hrows _ _ tagRequired
    mem := fun filter tag => TagQuery.mem_filtered_iff
    once := fun hids filter => hids.sublist (List.filter_sublist.map Tag.id)
    unlinked := fun filter tag htag => ?_
    combined := fun a b hapart tag => TagQuery.mem_filtered_combined_iff hapart
    seen := fun hids a b hapart =>
      mem_map_masked_inter_iff hids (hsub a) (hsub b)
        fun tag => TagQuery.mem_filtered_combined_iff hapart
    fewer := fun filter more hmore => TagQuery.filtered_subset hmore }⟩
  obtain ⟨-, -, hmet⟩ := TagQuery.mem_filtered_iff.mp htag
  exact hmet.unlinked

-- an empty link is a link, which a tag without one does not have
example : ({ mainTagId := some "" } : TagFilter).accepts
    (NewTag.toTag ⟨"go", "Go", "", "", false, false⟩ "t1" .epoch) = false := by decide

end Store

end TagTimeline
