import Mathlib.Data.Prod.Lex
import Mathlib.Data.String.Basic
import TagTimeline.Proofs.Tag.Agreement

/-!
# Looking Up Many Tags

What a list of ids or of slug names is answered with. A list stands for the set of its members: who
occurs in it twice is answered once, and who is unknown is left out. The answer is in an order of
its own, which the place in the list has no part in.

The order compares what is stored. Readers from whom recommendations are hidden get the same tags in
the same order, so that to them an answer may look as if it were in none.

## Main results

* `Tag.heavierOrEqual_iff`, `Tag.heavier_iff` — the standard order is that of the weights of tags.
* `Store.LooksUp.of_answers` — what follows for every look-up with answers in strict order.
* `Store.looksUp_afterCalls` — the look-ups by ids and by slug names in every run.
-/

namespace TagTimeline

namespace Tag

/-- **The weight of a tag**, by which tags are put in the standard order. -/
def weight (tag : Tag) : Bool ×ₗ Bool ×ₗ String :=
  toLex (tag.recommend, toLex (tag.reserved, tag.id))

/-- **Whether a tag comes before another one** in the standard order: it is recommended and the
other is not, or else it is reserved and the other is not, or else its id is greater. -/
def Heavier (a b : Tag) : Prop :=
  (a.recommend = true ∧ b.recommend = false) ∨ a.recommend = b.recommend ∧
    ((a.reserved = true ∧ b.reserved = false) ∨ a.reserved = b.reserved ∧ b.id < a.id)

/-- A tag comes before another one exactly if it has more weight. -/
theorem heavier_iff {a b : Tag} : Heavier a b ↔ b.weight < a.weight := by
  have hlt (x y : Bool) : (x = true ∧ y = false) ↔ y < x := by
    rw [Bool.lt_iff, and_comm]
  rw [weight, weight, Prod.Lex.toLex_lt_toLex, Prod.Lex.toLex_lt_toLex, Heavier, hlt, hlt,
    eq_comm (a := a.recommend), eq_comm (a := a.reserved)]

/-- **The standard order is that of weights.** -/
theorem heavierOrEqual_iff {a b : Tag} : heavierOrEqual a b = true ↔ b.weight ≤ a.weight := by
  rw [weight, weight, Prod.Lex.toLex_le_toLex, Prod.Lex.toLex_le_toLex, heavierOrEqual]
  -- the flags decide unless both agree, and then the ids are compared on either side
  cases a.recommend <;> cases b.recommend <;> cases a.reserved <;> cases b.reserved <;> simp

/-- The standard order is transitive. -/
theorem heavierOrEqual_trans (a b c : Tag) (hab : heavierOrEqual a b = true)
    (hbc : heavierOrEqual b c = true) : heavierOrEqual a c = true :=
  heavierOrEqual_iff.mpr (le_trans (heavierOrEqual_iff.mp hbc) (heavierOrEqual_iff.mp hab))

/-- Two tags are in the standard order one way round. -/
theorem heavierOrEqual_total (a b : Tag) : (heavierOrEqual a b || heavierOrEqual b a) = true := by
  rw [Bool.or_eq_true, heavierOrEqual_iff, heavierOrEqual_iff]
  exact le_total b.weight a.weight

/-- Of two tags at most one comes before the other. -/
theorem Heavier.asymm {a b : Tag} (h : Heavier a b) : ¬ Heavier b a := by
  rw [heavier_iff] at h ⊢
  exact lt_asymm h

/-- Tags with ids of their own are not equal in weight. -/
theorem heavier_of_ne {a b : Tag} (h : heavierOrEqual a b = true) (hid : a.id ≠ b.id) :
    Heavier a b := by
  refine heavier_iff.mpr (lt_of_le_of_ne (heavierOrEqual_iff.mp h) fun hweight => hid ?_)
  exact congrArg (fun weight => (ofLex (ofLex weight).2).2) hweight.symm

end Tag

namespace Store

/-- **What a look-up answers to a list of keys**: some tags in strict order, those that are stored
and that one of the keys asks for. They do not depend on the setting, which only hides their
recommendations. -/
structure Answers (s : Store) (lookUp : List String → Bool → Store → Except ServiceError (List Tag))
    (wanted : String → Tag → Prop) (keys : List String) (tags : List Tag) : Prop where
  answer : ∀ tagRequired, lookUp keys tagRequired s = .ok (tags.map (Tag.masked tagRequired))
  mem : ∀ tag, tag ∈ tags ↔ s.Holds tag ∧ ∃ key ∈ keys, wanted key tag
  ordered : tags.Pairwise Tag.Heavier

/-- **That lists of keys are looked up as sets** in a store. -/
structure LooksUp (s : Store) (lookUp : List String → Bool → Store → Except ServiceError (List Tag))
    (wanted : String → Tag → Prop) : Prop where
  answers : ∀ keys, ∃ tags, s.Answers lookUp wanted keys tags
  /-- Lists with the same members are answered alike. -/
  congr : ∀ keys others, (∀ key, key ∈ keys ↔ key ∈ others) →
    ∀ tagRequired, lookUp keys tagRequired s = lookUp others tagRequired s
  /-- Two lists one after the other are answered with the tags of both. -/
  append : ∀ keys others tagRequired, ∃ first second both, lookUp keys tagRequired s = .ok first ∧
    lookUp others tagRequired s = .ok second ∧ lookUp (keys ++ others) tagRequired s = .ok both ∧
    ∀ tag, tag ∈ both ↔ tag ∈ first ∨ tag ∈ second
  /-- The setting has no part in the order. -/
  order : ∀ keys, ∃ shown hidden, lookUp keys true s = .ok shown ∧
    lookUp keys false s = .ok hidden ∧ hidden = shown.map (Tag.masked false) ∧
    hidden.map Tag.id = shown.map Tag.id

section

variable {s : Store} {lookUp : List String → Bool → Store → Except ServiceError (List Tag)}
  {wanted : String → Tag → Prop}

/-- Lists with the same members are answered with the same tags. -/
theorem Answers.tags_eq {keys others : List String} {tags tags' : List Tag}
    (h : s.Answers lookUp wanted keys tags) (h' : s.Answers lookUp wanted others tags')
    (hkeys : ∀ key, key ∈ keys ↔ key ∈ others) : tags = tags' := by
  refine Sorting.eq_of_mem_iff (fun _ _ => Tag.Heavier.asymm) h.ordered h'.ordered fun tag => ?_
  rw [h.mem, h'.mem]
  simp only [hkeys]

/-- **A look-up whose answers are in strict order** takes its lists as sets. -/
theorem LooksUp.of_answers (h : ∀ keys, ∃ tags, s.Answers lookUp wanted keys tags) :
    s.LooksUp lookUp wanted := by
  refine ⟨h, ?_, ?_, ?_⟩
  · intro keys others hkeys tagRequired
    obtain ⟨tags, htags⟩ := h keys
    obtain ⟨tags', htags'⟩ := h others
    rw [htags.answer, htags'.answer, htags.tags_eq htags' hkeys]
  · intro keys others tagRequired
    obtain ⟨first, hfirst⟩ := h keys
    obtain ⟨second, hsecond⟩ := h others
    obtain ⟨both, hboth⟩ := h (keys ++ others)
    refine ⟨_, _, _, hfirst.answer tagRequired, hsecond.answer tagRequired,
      hboth.answer tagRequired, fun tag => ?_⟩
    -- all three lists are masked alike, so it is enough to compare the stored rows
    have hmem : ∀ stored, stored ∈ both ↔ stored ∈ first ++ second := by
      intro stored
      rw [List.mem_append, hboth.mem, hfirst.mem, hsecond.mem, ← and_or_left]
      simp only [List.mem_append, or_and_right, exists_or]
    rw [← List.mem_append, ← List.map_append, List.mem_map, List.mem_map]
    simp only [hmem]
  · intro keys
    obtain ⟨tags, htags⟩ := h keys
    refine ⟨_, _, htags.answer true, htags.answer false, ?_, ?_⟩
    · rw [List.map_map]
      rfl
    · rw [List.map_map, List.map_map]
      rfl

/-- **Rows chosen by a condition**, in the standard order, are an answer. -/
theorem answers_readTags {rows : List Tag} (hrows : s.rows? Tag = some rows)
    (hids : (rows.map Tag.id).Nodup) {keys : List String} {accepts : Tag → Bool}
    (haccepts : ∀ tag, accepts tag = true ↔ ∃ key ∈ keys, wanted key tag)
    (hlookUp : ∀ tagRequired, lookUp keys tagRequired s =
      .ok (((rows.filter accepts).mergeSort Tag.heavierOrEqual).map (Tag.masked tagRequired))) :
    s.Answers lookUp wanted keys ((rows.filter accepts).mergeSort Tag.heavierOrEqual) := by
  refine ⟨hlookUp, fun tag => ?_, ?_⟩
  · rw [(List.mergeSort_perm _ _).mem_iff, List.mem_filter, holds_iff hrows, haccepts]
  · have hsorted := Sorting.pairwise_mergeSort_distinct Tag.heavierOrEqual_trans
      Tag.heavierOrEqual_total (hids.sublist ((List.filter_sublist (p := accepts)).map Tag.id))
    exact hsorted.imp fun h => Tag.heavier_of_ne h.1 h.2

end

/-- **Many tags are looked up as sets.** At every moment of any run, a list of ids is answered with
the available tags that have one of them, and a list of slug names with the tags of any status that
have one of them: each once, recommended ones first, then reserved ones, then by id downward, as
they are stored. Lists with the same members are answered alike, whatever their order and however
often a member occurs in them; two lists one after the other are answered with the tags of both; and
the setting has no part in the order.

It is assumed that the store takes a list of any length. A store that limits how many values a
statement can carry fails of a longer list. -/
theorem looksUp_afterCalls (calls : List ((α : Type) × Call α)) :
    (afterCalls calls).LooksUp tagsByIds
        (fun id tag => tag.status = .available ∧ tag.id = id) ∧
      (afterCalls calls).LooksUp tagsByNames fun slugName tag => tag.slugName = slugName := by
  obtain ⟨rows, hrows, hconsistent⟩ := hasConsistentTags_afterCalls calls
  constructor
  · refine LooksUp.of_answers fun ids => ⟨_, answers_readTags hrows hconsistent.ids
      (fun tag => ?_) fun tagRequired => readTags_eq hrows _ (TagQuery.byIds ids) tagRequired⟩
    rw [Bool.and_eq_true, List.contains_iff_mem, Tag.isAvailable, beq_iff_eq]
    constructor
    · rintro ⟨havailable, hid⟩
      exact ⟨tag.id, hid, havailable, rfl⟩
    · rintro ⟨id, hid, havailable, rfl⟩
      exact ⟨havailable, hid⟩
  · refine LooksUp.of_answers fun names => ⟨_, answers_readTags hrows hconsistent.ids
      (fun tag => ?_) fun tagRequired => readTags_eq hrows _ (TagQuery.byNames names) tagRequired⟩
    rw [List.contains_iff_mem]
    constructor
    · intro hname
      exact ⟨tag.slugName, hname, rfl⟩
    · rintro ⟨slugName, hname, rfl⟩
      exact hname

end Store

end TagTimeline
