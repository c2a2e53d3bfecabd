import Mathlib.Data.List.Infix
import Mathlib.Data.List.TakeWhile
import TagTimeline.Text.Pattern

/-!
# Patterns and Literal Text

When a pattern made of a text asks for the text itself. The text is put between wildcards as it is,
so its own wildcards stay wildcards, and a NUL character in it ends the pattern. A text that has
none of these is asked for literally, up to the case of ASCII letters: at the beginning of another
text, or anywhere in what can be seen of it. Any other text finds one that does not hold it.

## Main results

* `Matches.append_iff` — plain characters in front of a pattern.
* `like_startingWith_iff` and `like_containing_iff` — plain texts are asked for literally.
* `isPlain_unmarked`, `like_containing_unmarked` and `not_infix_of_not_isPlain` — what a text that
  is not plain finds instead.
-/

namespace TagTimeline.Text.Pattern

/-! ### Plain characters -/

/-- **Whether every character of a text stands for itself** in a pattern: none is a wildcard and
none ends the pattern. -/
def IsPlain (s : String) : Prop := ∀ c ∈ s.toList, c ≠ '%' ∧ c ≠ '_' ∧ c ≠ '\x00'

instance (s : String) : Decidable (IsPlain s) :=
  List.decidableBAll (fun c => c ≠ '%' ∧ c ≠ '_' ∧ c ≠ '\x00') s.toList

/-- A plain text has no NUL character. -/
theorem IsPlain.nul_notMem {s : String} (h : IsPlain s) : '\x00' ∉ s.toList :=
  fun hnul => (h _ hnul).2.2 rfl

/-- A capital letter is folded to a small one. -/
theorem isLower_fold {c : Char} (h : c.isUpper = true) : (fold c).isLower = true := by
  have hc : 'A'.val ≤ c.val ∧ c.val ≤ 'Z'.val := of_decide_eq_true h
  have hval : (fold c).val = c.val + 32 := congrArg Char.val (dif_pos hc)
  refine Bool.and_eq_true_iff.mpr ⟨decide_eq_true ?_, decide_eq_true ?_⟩
  all_goals
    simp only [hval, ge_iff_le, UInt32.le_iff_toNat_le, UInt32.toNat_add, Char.reduceVal,
      UInt32.reduceToNat] at hc ⊢
    omega

/-- Any other character is left as it is. -/
theorem fold_of_not_isUpper {c : Char} (h : c.isUpper = false) : fold c = c :=
  dif_neg (of_decide_eq_false h)

/-- Only a letter is folded, and to a letter. -/
theorem fold_eq_iff {c d : Char} (hd : d.isAlpha = false) : fold c = d ↔ c = d := by
  obtain ⟨hupper, hlower⟩ : d.isUpper = false ∧ d.isLower = false := Bool.or_eq_false_iff.mp hd
  constructor
  · rintro rfl
    cases hc : c.isUpper with
    | false => exact (fold_of_not_isUpper hc).symm
    | true =>
        rw [isLower_fold hc] at hlower
        cases hlower
  · rintro rfl
    exact fold_of_not_isUpper hupper

/-- The characters of a text in lower case are its characters, folded. -/
theorem toList_toLower (s : String) : s.toLower.toList = s.toList.map fold := String.toList_map

/-! ### What patterns of plain characters mean -/

variable {plain pattern text : List Char}

/-- The wildcard for runs skips any part of a text. -/
theorem Matches.run_iff :
    Matches ('%' :: pattern) text ↔
      ∃ skipped tail, text = skipped ++ tail ∧ Matches pattern tail := by
  constructor
  · intro h
    cases h with
    | run skipped heq hrest => exact ⟨skipped, _, heq, hrest⟩
    | same hplain _ _ => exact absurd rfl hplain
  · rintro ⟨skipped, tail, heq, hrest⟩
    exact .run skipped heq hrest

/-- The wildcard for runs matches every text. -/
theorem matches_run (text : List Char) : Matches ['%'] text :=
  .run text (List.append_nil text).symm .done

/-- **Plain characters in front of a pattern** are matched by as many characters that equal them up
to the case of ASCII letters. -/
theorem Matches.append_iff (hplain : ∀ c ∈ plain, c ≠ '%' ∧ c ≠ '_') :
    Matches (plain ++ pattern) text ↔
      ∃ head tail, text = head ++ tail ∧ plain.map fold = head.map fold ∧ Matches pattern tail := by
  induction plain generalizing text with
  | nil =>
      constructor
      · intro h
        exact ⟨[], text, rfl, rfl, h⟩
      · rintro ⟨head, tail, rfl, hhead, h⟩
        obtain rfl := List.map_eq_nil_iff.mp hhead.symm
        exact h
  | cons p plain ih =>
      obtain ⟨hrun, hone⟩ := hplain p List.mem_cons_self
      have hrest : ∀ c ∈ plain, c ≠ '%' ∧ c ≠ '_' := fun c hc =>
        hplain c (List.mem_cons_of_mem p hc)
      constructor
      · intro h
        cases h with
        | run => exact absurd rfl hrun
        | one => exact absurd rfl hone
        | same _ heq htext =>
            obtain ⟨head, tail, rfl, hhead, htail⟩ := (ih hrest).mp htext
            exact ⟨_ :: head, tail, rfl, congrArg₂ List.cons heq hhead, htail⟩
      · rintro ⟨head, tail, rfl, hhead, htail⟩
        cases head with
        | nil => cases hhead
        | cons c head =>
            obtain ⟨heq, hhead⟩ := List.cons.inj hhead
            exact .same hrun heq ((ih hrest).mpr ⟨head, tail, rfl, hhead, htail⟩)

/-- Plain characters in front of the wildcard for runs ask how a text begins. -/
theorem matches_beginning_iff (hplain : ∀ c ∈ plain, c ≠ '%' ∧ c ≠ '_') :
    Matches (plain ++ ['%']) text ↔ plain.map fold <+: text.map fold := by
  rw [Matches.append_iff hplain, List.prefix_map_iff]
  constructor
  · rintro ⟨head, tail, rfl, hhead, -⟩
    exact ⟨head, List.prefix_append head tail, hhead⟩
  · rintro ⟨head, ⟨tail, rfl⟩, hhead⟩
    exact ⟨head, tail, rfl, hhead, matches_run tail⟩

/-- Plain characters between two wildcards for runs ask what a text holds. -/
theorem matches_within_iff (hplain : ∀ c ∈ plain, c ≠ '%' ∧ c ≠ '_') :
    Matches ('%' :: (plain ++ ['%'])) text ↔ plain.map fold <:+: text.map fold := by
  rw [Matches.run_iff, List.infix_iff_prefix_suffix]
  constructor
  · rintro ⟨skipped, tail, rfl, hrest⟩
    refine ⟨tail.map fold, (matches_beginning_iff hplain).mp hrest, ?_⟩
    rw [List.map_append]
    exact List.suffix_append _ _
  · rintro ⟨rest, hprefix, hsuffix⟩
    obtain ⟨tail, ⟨skipped, rfl⟩, rfl⟩ := List.suffix_map_iff.mp hsuffix
    exact ⟨skipped, tail, rfl, (matches_beginning_iff hplain).mpr hprefix⟩

/-! ### What patterns made of plain texts ask for -/

variable {s : String}

/-- A text without a NUL character can be seen as a whole. -/
theorem visible_eq_toList (h : '\x00' ∉ s.toList) : visible s = s.toList := by
  refine List.takeWhile_eq_self_iff.mpr fun c hc => decide_eq_true ?_
  rintro rfl
  exact h hc

/-- What can be seen of a text has no NUL character. -/
theorem nul_notMem_visible (s : String) : '\x00' ∉ visible s := by
  intro h
  have hne := List.mem_takeWhile_imp h
  exact absurd hne (by decide)

/-- **How a text begins** can be seen of it as far as there is no NUL character. -/
theorem prefix_visible_iff (h : '\x00' ∉ plain) (s : String) :
    plain.map fold <+: (visible s).map fold ↔ plain.map fold <+: s.toList.map fold := by
  constructor
  · intro hprefix
    exact hprefix.trans ((List.takeWhile_prefix _).map fold)
  · intro hprefix
    obtain ⟨head, ⟨tail, htext⟩, hhead⟩ := List.prefix_map_iff.mp hprefix
    have hnul : ∀ c ∈ head, decide (c ≠ '\x00') = true := by
      intro c hc
      refine decide_eq_true fun hnul => h ?_
      have hfold : fold c ∈ plain.map fold := hhead ▸ List.mem_map_of_mem hc
      obtain ⟨d, hd, heq⟩ := List.mem_map.mp hfold
      rw [hnul] at heq
      obtain rfl : d = '\x00' := (fold_eq_iff rfl).mp heq
      exact hd
    rw [visible, ← htext, List.takeWhile_append_of_pos hnul, hhead, List.map_append]
    exact List.prefix_append _ _

/-- **A plain text asks for texts that begin with it**, up to the case of ASCII letters. -/
theorem like_startingWith_iff (hs : IsPlain s) (text : String) :
    like (startingWith s) text = true ↔ s.toLower.toList <+: text.toLower.toList := by
  have hpattern : visible (startingWith s) = s.toList ++ ['%'] := by
    rw [startingWith, visible_eq_toList] <;> simp [hs.nul_notMem]
  rw [like, matches_iff, hpattern, matches_beginning_iff fun c hc => ⟨(hs c hc).1, (hs c hc).2.1⟩,
    prefix_visible_iff hs.nul_notMem, toList_toLower, toList_toLower]

/-- **A plain text asks for texts that hold it** in what can be seen of them, up to the case of
ASCII letters. -/
theorem like_containing_iff (hs : IsPlain s) (text : String) :
    like (containing s) text = true ↔ s.toLower.toList <:+: (visible text).map fold := by
  have hpattern : visible (containing s) = '%' :: (s.toList ++ ['%']) := by
    rw [containing, visible_eq_toList] <;> simp [hs.nul_notMem]
  rw [like, matches_iff, hpattern, matches_within_iff fun c hc => ⟨(hs c hc).1, (hs c hc).2.1⟩,
    toList_toLower]

/-! ### What other texts ask for -/

/-- A character with a plain one in place of each wildcard. -/
def unmark (c : Char) : Char := if c = '%' ∨ c = '_' then 'x' else c

/-- **A text that another one finds** though it has none of its wildcards. -/
def unmarked (s : String) : String := String.ofList ((visible s).map unmark)

/-- A pattern matches itself with plain characters in place of its wildcards. -/
theorem matches_append_map_unmark {more : List Char} (hmore : Matches more []) :
    Matches (pattern ++ more) (pattern.map unmark) := by
  induction pattern with
  | nil => exact hmore
  | cons p pattern ih =>
      by_cases hrun : p = '%'
      · subst hrun
        exact .run ['x'] rfl ih
      · by_cases hone : p = '_'
        · subst hone
          exact .one 'x' ih
        · have hsame : unmark p = p := if_neg (not_or.mpr ⟨hrun, hone⟩)
          rw [List.map_cons, hsame]
          exact .same hrun rfl ih

/-- A text without its wildcards is plain. -/
theorem isPlain_unmarked (s : String) : IsPlain (unmarked s) := by
  intro c hc
  rw [unmarked, String.toList_ofList] at hc
  obtain ⟨d, hd, rfl⟩ := List.mem_map.mp hc
  rw [unmark]
  split
  · decide
  · next hmark =>
      obtain ⟨hrun, hone⟩ := not_or.mp hmark
      exact ⟨hrun, hone, fun hnul => nul_notMem_visible s (hnul ▸ hd)⟩

/-- What can be seen of the pattern for texts that hold a text. -/
theorem visible_containing (s : String) :
    ∃ more, visible (containing s) = '%' :: (visible s ++ more) ∧ (more = [] ∨ more = ['%']) := by
  have htext : (containing s).toList = '%' :: (s.toList ++ ['%']) := by simp [containing]
  rw [visible, htext, List.takeWhile_cons_of_pos (by decide), List.takeWhile_append]
  split
  · next hall =>
      refine ⟨['%'], ?_, .inr rfl⟩
      rw [visible, (List.takeWhile_prefix _).eq_of_length hall]
      rfl
  · exact ⟨[], by rw [List.append_nil]; rfl, .inl rfl⟩

/-- **A text finds itself without its wildcards.** -/
theorem like_containing_unmarked (s : String) : like (containing s) (unmarked s) = true := by
  obtain ⟨more, hpattern, hmore⟩ := visible_containing s
  rw [like, matches_iff, hpattern, visible_eq_toList (isPlain_unmarked s).nul_notMem, unmarked,
    String.toList_ofList]
  refine .run [] rfl (matches_append_map_unmark ?_)
  rcases hmore with rfl | rfl
  · exact .done
  · exact matches_run []

/-- A text that is not plain is held by no plain one. -/
theorem not_infix_of_not_isPlain {text : String} (hs : ¬ IsPlain s) (htext : IsPlain text) :
    ¬ s.toLower.toList <:+: text.toLower.toList := by
  intro hinfix
  apply hs
  intro c hc
  have hfold : fold c ∈ text.toLower.toList := by
    refine hinfix.subset ?_
    rw [toList_toLower]
    exact List.mem_map_of_mem hc
  rw [toList_toLower] at hfold
  obtain ⟨d, hd, heq⟩ := List.mem_map.mp hfold
  obtain ⟨hrun, hone, hnul⟩ := htext d hd
  -- none of the three characters is folded, so `d` would have to be the same one
  refine ⟨?_, ?_, ?_⟩
  · rintro rfl
    exact hrun ((fold_eq_iff rfl).mp heq)
  · rintro rfl
    exact hone ((fold_eq_iff rfl).mp heq)
  · rintro rfl
    exact hnul ((fold_eq_iff rfl).mp heq)

end TagTimeline.Text.Pattern
