import TagTimeline.Proofs.Tag.Agreement
import TagTimeline.Proofs.Tag.Batch
import TagTimeline.Proofs.Text.Literal

/-!
# Name Completion

Which tags complete a name, and which of them are answered. The tags are chosen first, then put in
the order of their slug names and only then cut to as many as are asked for. No two slug names are
the same, so the order leaves nothing open: an answer is the beginning of one list, which does not
depend on how many tags are asked for.

A slug name is compared with the name up to the case of ASCII letters, but put in order with regard
to it.

## Main results

* `TagQuery.completes_iff` — the tags that a name without wildcards is completed by.
* `Store.searchTags_afterCalls` — name completion in every run.
-/

namespace TagTimeline

open Text

namespace TagQuery

/-- **What a completion of a name asks of a tag**: that it can be seen, that its slug name begins
with the name, up to the case of ASCII letters, or, for an empty name, that it is recommended, and
that it is not reserved unless such tags are wanted. -/
structure IsCompletion (name : String) (hasReserved : Bool) (tag : Tag) : Prop where
  available : tag.status = .available
  beginning : name ≠ "" → name.toLower.toList <+: tag.slugName.toLower.toList
  recommended : name = "" → tag.recommend = true
  unreserved : hasReserved = false → tag.reserved = false

instance (name : String) (hasReserved : Bool) (tag : Tag) :
    Decidable (IsCompletion name hasReserved tag) :=
  decidable_of_iff
    (tag.status = .available ∧ (name ≠ "" → name.toLower.toList <+: tag.slugName.toLower.toList) ∧
      (name = "" → tag.recommend = true) ∧ (hasReserved = false → tag.reserved = false))
    ⟨fun h => ⟨h.1, h.2.1, h.2.2.1, h.2.2.2⟩,
      fun h => ⟨h.available, h.beginning, h.recommended, h.unreserved⟩⟩

/-- **A name without wildcards is completed** by the tags that its completion asks for. -/
theorem completes_iff {name : String} (hname : Pattern.IsPlain name) {hasReserved : Bool}
    {tag : Tag} : completes name hasReserved tag = true ↔ IsCompletion name hasReserved tag := by
  have hreserved : (hasReserved || !tag.reserved) = true ↔
      (hasReserved = false → tag.reserved = false) := by
    cases hasReserved <;> simp
  rw [completes, Bool.and_eq_true, Bool.and_eq_true, hreserved, Tag.isAvailable, beq_iff_eq]
  by_cases hempty : name = ""
  · rw [if_pos (String.isEmpty_iff.mpr hempty)]
    constructor
    · rintro ⟨⟨havailable, hrecommend⟩, hunreserved⟩
      exact ⟨havailable, fun hne => absurd hempty hne, fun _ => hrecommend, hunreserved⟩
    · intro h
      exact ⟨⟨h.available, h.recommended hempty⟩, h.unreserved⟩
  · rw [if_neg (mt String.isEmpty_iff.mp hempty), Pattern.like_startingWith_iff hname]
    constructor
    · rintro ⟨⟨havailable, hbeginning⟩, hunreserved⟩
      exact ⟨havailable, fun _ => hbeginning, fun heq => absurd heq hempty, hunreserved⟩
    · intro h
      exact ⟨⟨h.available, h.beginning hempty⟩, h.unreserved⟩

/-- **All completions of a name**, by slug name. -/
def allCompletions (name : String) (hasReserved : Bool) (rows : List Tag) : List Tag :=
  TagSort.name.apply (rows.filter (completes name hasReserved))

variable {name : String} {hasReserved : Bool} {rows : List Tag}

/-- The completions of a name without wildcards are the stored tags that it asks for. -/
theorem mem_allCompletions_iff (hname : Pattern.IsPlain name) {tag : Tag} :
    tag ∈ allCompletions name hasReserved rows ↔
      tag ∈ rows ∧ IsCompletion name hasReserved tag := by
  rw [allCompletions, (TagSort.name.apply_perm _).mem_iff, List.mem_filter, completes_iff hname]

/-- Completions are in strictly ascending order where slug names are distinct. -/
theorem pairwise_allCompletions (hslugs : (rows.map Tag.slugName).Nodup) :
    (allCompletions name hasReserved rows).Pairwise fun a b => a.slugName < b.slugName :=
  TagSort.name.pairwise_apply (hslugs.sublist (List.filter_sublist.map Tag.slugName))

/-- The completions that are answered are the first ones. -/
theorem completions_eq_take {limit : UInt64} (hlimit : limit.toNat ≤ maxSigned) :
    completions name limit hasReserved rows =
      (allCompletions name hasReserved rows).take limit.toNat :=
  if_pos hlimit

end TagQuery

namespace Store

open TagQuery

/-- **What completions of a name are answered** in a store, from one list of all of them. -/
structure CompletesFrom (s : Store) (source : SettingSource) (name : String) (hasReserved : Bool)
    (all : List Tag) : Prop where
  /-- The first ones are answered, as many as are asked for. -/
  answer : ∀ limit : UInt64, 1 ≤ limit → limit ≤ 100 →
    Catalog.searchTags source ⟨name, limit, hasReserved⟩ s =
      .ok ((all.take limit.toNat).map (Tag.masked (source.effective s)))
  /-- Fewer than that are all of them. -/
  whole : ∀ (limit : UInt64) (found : List Tag),
    Catalog.searchTags source ⟨name, limit, hasReserved⟩ s = .ok found →
    found.length < limit.toNat → found = all.map (Tag.masked (source.effective s))
  /-- What is answered is the beginning of what is answered if more tags are asked for. -/
  beginning : ∀ (limit more : UInt64) (found foundMore : List Tag), limit ≤ more →
    Catalog.searchTags source ⟨name, limit, hasReserved⟩ s = .ok found →
    Catalog.searchTags source ⟨name, more, hasReserved⟩ s = .ok foundMore → found <+: foundMore

/-- A completion that is answered was asked for in bounds. -/
theorem limit_of_searchTags {s : Store} {source : SettingSource} {request : SearchRequest}
    {found : List Tag} (h : Catalog.searchTags source request s = .ok found) :
    1 ≤ request.limit ∧ request.limit ≤ 100 := by
  rw [Catalog.searchTags] at h
  split at h
  · next hnone => exact (SearchRequest.violations_eq_nil_iff request).mp hnone
  · cases h

/-- **Completions are answered from one list** of all of them. -/
theorem completesFrom_allCompletions {s : Store} {rows : List Tag}
    (hrows : s.rows? Tag = some rows) (source : SettingSource) (name : String)
    (hasReserved : Bool) :
    s.CompletesFrom source name hasReserved (allCompletions name hasReserved rows) := by
  have hanswer {limit : UInt64} (hleast : 1 ≤ limit) (hmost : limit ≤ 100) :
      Catalog.searchTags source ⟨name, limit, hasReserved⟩ s =
        .ok (((allCompletions name hasReserved rows).take limit.toNat).map
          (Tag.masked (source.effective s))) := by
    rw [searchTags_eq hrows source hleast hmost, completions_eq_take (toNat_le_maxSigned hmost)]
  have hfound {limit : UInt64} {found : List Tag}
      (h : Catalog.searchTags source ⟨name, limit, hasReserved⟩ s = .ok found) :
      found = ((allCompletions name hasReserved rows).take limit.toNat).map
        (Tag.masked (source.effective s)) := by
    obtain ⟨hleast, hmost⟩ := limit_of_searchTags h
    rw [hanswer hleast hmost] at h
    exact (Except.ok.inj h).symm
  refine ⟨fun limit hleast hmost => hanswer hleast hmost, ?_, ?_⟩
  · intro limit found hsearch hfew
    -- where fewer are found than were asked for, nothing was cut off
    rw [hfound hsearch, List.length_map, List.length_take] at hfew
    rw [hfound hsearch, List.take_of_length_le (by omega)]
  · intro limit more found foundMore hle hsearch hmore
    rw [hfound hsearch, hfound hmore]
    exact (List.take_prefix_take_left (UInt64.le_iff_toNat_le.mp hle)).map _

/-- **Name completion.** At every moment of any run, for every name without wildcards and NUL
characters: the available tags whose slug name begins with the name up to the case of ASCII letters,
or the recommended ones if the name is empty, less the reserved ones unless these are wanted, make
one list in strictly ascending order of slug names. Whatever the setting is, the first tags of it
are answered, as many as are asked for; so fewer are all of them, and a shorter answer is the
beginning of a longer one. -/
theorem searchTags_afterCalls (calls : List ((α : Type) × Call α)) {name : String}
    (hname : Pattern.IsPlain name) (hasReserved : Bool) :
    ∃ all : List Tag,
      (∀ tag, tag ∈ all ↔
        (afterCalls calls).Holds tag ∧ IsCompletion name hasReserved tag) ∧
      (all.Pairwise fun a b => a.slugName < b.slugName) ∧
      ∀ source, (afterCalls calls).CompletesFrom source name hasReserved all := by
  obtain ⟨rows, hrows, hconsistent⟩ := hasConsistentTags_afterCalls calls
  refine ⟨allCompletions name hasReserved rows, fun tag => ?_,
    pairwise_allCompletions hconsistent.slugNames,
    fun source => completesFrom_allCompletions hrows source name hasReserved⟩
  rw [mem_allCompletions_iff hname, holds_iff hrows]

/-- A new tag that is reserved. -/
def rustAsync : NewTag := { named "rust-async" with reserved := true }

/-- Four tags, the second of them reserved, and the last one deleted. -/
def rustTags : List ((α : Type) × Call α) :=
  [⟨_, .addTags ["t1", "t2", "t3", "t4"] .epoch
      [named "Rust", rustAsync, named "trust", named "RUSTY"]⟩,
    ⟨_, .removeTag "t4" .epoch⟩]

/-- The two tags that complete a name in capitals. -/
def rustCompletions : List Tag := [(named "Rust").toTag "t1" .epoch, rustAsync.toTag "t2" .epoch]

/-- Two tags complete a name in capitals if reserved ones are wanted, and the first of them is the
whole answer if one is asked for. -/
theorem searchTags_afterCalls_rustTags :
    Catalog.searchTags (.fixed true) ⟨"RUS", 5, true⟩ (afterCalls rustTags) = .ok rustCompletions ∧
      Catalog.searchTags (.fixed true) ⟨"RUS", 1, true⟩ (afterCalls rustTags) =
        .ok (rustCompletions.take 1) := by
  obtain ⟨all, hmem, hordered, hfrom⟩ := @searchTags_afterCalls rustTags "RUS" (by decide) true
  obtain ⟨rows, hrows, hfilter⟩ : ∃ rows, (afterCalls rustTags).rows? Tag = some rows ∧
      (rows.filter fun tag => IsCompletion "RUS" true tag) = rustCompletions :=
    ⟨_, rfl, by decide +kernel⟩
  have hall : all = rustCompletions := by
    refine Sorting.eq_of_mem_iff (fun _ _ => String.lt_asymm) hordered (by decide) fun tag => ?_
    rw [hmem, holds_iff hrows, ← hfilter, List.mem_filter, decide_eq_true_iff]
  refine ⟨?_, ?_⟩
  · rw [(hfrom (.fixed true)).answer 5 (by decide) (by decide), hall]
    rfl
  · rw [(hfrom (.fixed true)).answer 1 (by decide) (by decide), hall]
    rfl

end Store

end TagTimeline
