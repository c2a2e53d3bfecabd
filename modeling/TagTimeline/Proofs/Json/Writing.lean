import TagTimeline.Json.Writer
import TagTimeline.Proofs.Json.Reading

/-!
# Reading What Was Written

A document in writing spells the document, so it is read back: every number with its digits, every
text character by character. Left out are only documents that no text spells, in which a number has
a point and no digits behind it, and strings without a text, of which no value is made.

## Main results

* `Document.isSpelled_toText` — a document is spelled by its writing.
* `Document.read?_toText` — a document is read back from its writing.
-/

namespace TagTimeline.Json

open TagTimeline.Text

/-! ### Numbers -/

namespace Number

/-- Whether a number has digits behind its point, if it has a point. -/
def isWritable (n : Number) : Bool := n.fraction != some 0

/-- The digits of a number have no leading zero. -/
theorem isWhole_natDigits (n : Nat) : IsWhole (natDigits n) :=
  ⟨natDigits_ne_nil n, head?_natDigits⟩

/-- The digits before the point are those that are not behind it. -/
theorem isWhole_take_padded (places n : Nat) :
    IsWhole ((padded (places + 1) n).take ((padded (places + 1) n).length - places)) := by
  have hlength := length_padded (places + 1) n
  have hnil : padded (places + 1) n ≠ [] := (readNat?_eq_some_iff.mp (readNat?_padded _ n)).1
  refine ⟨?_, fun hhead => ?_⟩
  · rw [Ne, List.take_eq_nil_iff]
    rintro (hzero | hempty)
    · omega
    · exact hnil hempty
  · by_cases hwide : (natDigits n).length ≤ places + 1
    · -- there is only one digit before the point
      have hone : (padded (places + 1) n).length - places = 1 := by omega
      rw [hone] at hhead ⊢
      cases hdigits : padded (places + 1) n with
      | nil => exact absurd hdigits hnil
      | cons c cs =>
          rw [hdigits] at hhead
          rw [List.take_succ_cons, List.take_zero]
          exact congrArg (fun c => [c]) (Option.some.inj hhead)
    · have hzeros : padded (places + 1) n = natDigits n := by
        have hnone : places + 1 - (natDigits n).length = 0 := by omega
        rw [padded, hnone]
        rfl
      rw [hzeros] at hhead ⊢
      have hcount : (natDigits n).length - places ≠ 0 := by omega
      rw [List.head?_take, if_neg hcount] at hhead
      have hsingle := congrArg List.length (head?_natDigits hhead)
      rw [List.length_singleton] at hsingle
      omega

/-- **The digits of a number** are spelled by their writing. -/
theorem spellsDigits_renderDigits {n : Nat} {places? : Option Nat} (h : places? ≠ some 0) :
    SpellsDigits n places? (renderDigits n places?) := by
  cases places? with
  | none => exact .whole (isWhole_natDigits n) (readDigits?_natDigits n)
  | some places =>
      have hlength := length_padded (places + 1) n
      have hdrop : ((padded (places + 1) n).drop ((padded (places + 1) n).length - places)).length =
          places := by
        rw [List.length_drop]
        omega
      have hnil : (padded (places + 1) n).drop ((padded (places + 1) n).length - places) ≠ [] := by
        intro hempty
        rw [hempty] at hdrop
        exact h (congrArg some hdrop.symm)
      have hvalue : readDigits? 10 0
          ((padded (places + 1) n).take ((padded (places + 1) n).length - places) ++
            (padded (places + 1) n).drop ((padded (places + 1) n).length - places)) = some n := by
        rw [List.take_append_drop]
        exact (readNat?_eq_some_iff.mp (readNat?_padded _ n)).2
      have hspells := SpellsDigits.point (isWhole_take_padded places n) hnil hvalue
      rwa [hdrop] at hspells

/-- An exponent is spelled by its writing. -/
theorem spellsExponent_intDigits (e : Int) : SpellsExponent (some e) ('e' :: intDigits e) := by
  have hvalue := readNat?_natDigits e.natAbs
  rw [intDigits]
  by_cases h : e < 0
  · have hspells := SpellsExponent.present (.inl rfl) .minus hvalue
    have habs : -(e.natAbs : Int) = e := by omega
    rw [if_pos rfl, habs] at hspells
    rw [if_pos h]
    exact hspells
  · have hspells := SpellsExponent.present (.inl rfl) .absent hvalue
    have habs : (e.natAbs : Int) = e := by omega
    rw [if_neg Bool.false_ne_true, habs] at hspells
    rw [if_neg h]
    exact hspells

/-- **A number is spelled by its writing.** -/
theorem isSpelled_render {n : Number} (h : n.isWritable = true) : n.IsSpelled n.render := by
  have hfraction : n.fraction ≠ some 0 := bne_iff_ne.mp h
  rw [render, List.append_assoc]
  refine ⟨_, _, rfl, spellsDigits_renderDigits hfraction, ?_⟩
  cases n.exponent with
  | none => exact .absent
  | some e => exact spellsExponent_intDigits e

end Number

/-! ### Strings -/

namespace Unit16

/-- The code of a control character is spelled by two digits. -/
theorem readDigits?_control {n : Nat} (h : n < 0x20) :
    readDigits? 16 0 ['0', '0', hexDigit (n / 16), hexDigit (n % 16)] = some n := by
  have hall : ∀ n < 0x20,
      readDigits? 16 0 ['0', '0', hexDigit (n / 16), hexDigit (n % 16)] = some n := by decide
  exact hall n h

/-- **A character is spelled by its writing.** -/
theorem spells_renderChar (c : Char) : (scalar c).Spells (renderChar c) := by
  rw [renderChar]
  by_cases hquote : c = '\x22'
  · rw [if_pos hquote, hquote]
    exact .letter rfl
  rw [if_neg hquote]
  by_cases hescape : c = '\x5c'
  · rw [if_pos hescape, hescape]
    exact .letter rfl
  rw [if_neg hescape]
  by_cases hbackspace : c = '\x08'
  · rw [if_pos hbackspace, hbackspace]
    exact .letter rfl
  rw [if_neg hbackspace]
  by_cases hfeed : c = '\x0c'
  · rw [if_pos hfeed, hfeed]
    exact .letter rfl
  rw [if_neg hfeed]
  by_cases hline : c = '\n'
  · rw [if_pos hline, hline]
    exact .letter rfl
  rw [if_neg hline]
  by_cases hreturn : c = '\r'
  · rw [if_pos hreturn, hreturn]
    exact .letter rfl
  rw [if_neg hreturn]
  by_cases htab : c = '\t'
  · rw [if_pos htab, htab]
    exact .letter rfl
  rw [if_neg htab]
  by_cases hcontrol : c.toNat < 0x20
  · have hcode : ofCode c.toNat = scalar c := by
      have hplain : ¬ (0xD800 ≤ c.toNat ∧ c.toNat ≤ 0xDBFF) := by omega
      have hlow : ¬ (0xDC00 ≤ c.toNat ∧ c.toNat ≤ 0xDFFF) := by omega
      rw [ofCode, if_neg hplain, if_neg hlow, Char.ofNat_toNat]
    have hspells := Spells.code rfl (readDigits?_control hcontrol)
    rw [hcode] at hspells
    rw [if_pos hcontrol]
    exact hspells
  · rw [if_neg hcontrol]
    exact .plain hcontrol hquote hescape

/-- Characters are spelled by their writing. -/
theorem spellsAll_flatMap_renderChar (cs : List Char) :
    SpellsAll (cs.map scalar) (cs.flatMap renderChar) := by
  induction cs with
  | nil => exact .nil
  | cons c cs ih => exact .cons (spells_renderChar c) ih

/-- Characters stand for themselves. -/
theorem characters?_map_scalar (cs : List Char) : characters? (cs.map scalar) = some cs := by
  induction cs with
  | nil => rfl
  | cons c cs ih => rw [List.map_cons, characters?, ih, Option.map_some]

end Unit16

/-- **A text is spelled by its writing.** -/
theorem Token.spells_renderString (s : String) :
    (Token.string (some s)).Spells (renderString (some s)) := by
  have hspells := Token.Spells.string (Unit16.spellsAll_flatMap_renderChar s.toList)
  rwa [Unit16.text?, Unit16.characters?_map_scalar, Option.map_some,
    String.ofList_toList] at hspells

/-! ### Documents -/

namespace Document

mutual

/-- **A document is spelled by its writing.** -/
theorem spells_render (d : Document) (h : d.isSound Number.isWritable = true) :
    SpellsTokens d.tokens d.render := by
  have hend : SpellsTokens [] [] := .nil (by simp [IsSpacing])
  match d with
  | .null => exact hend.cons_word .null
  | .bool true => exact hend.cons_word .true
  | .bool false => exact hend.cons_word .false
  | .number n =>
      have hnumber := hend.cons_word (.number (Number.isSpelled_render h))
      rwa [List.append_nil] at hnumber
  | .string none => cases h
  | .string (some s) =>
      have hstring := hend.cons_word (Token.spells_renderString s)
      rwa [List.append_nil] at hstring
  | .array [] => exact (hend.cons_word .closeBracket).cons_word .openBracket
  | .array (d :: ds) =>
      obtain ⟨hd, hds⟩ := Bool.and_eq_true_iff.mp h
      exact ((spells_render d hd).append (spells_renderItems ds hds)).cons_word .openBracket
  | .object [] => exact (hend.cons_word .closeBrace).cons_word .openBrace
  | .object ((none, d) :: ds) => cases h
  | .object ((some name, d) :: ds) =>
      obtain ⟨hd, hds⟩ := Bool.and_eq_true_iff.mp h
      have hmembers := (spells_render d hd).append (spells_renderMembers ds hds)
      exact ((hmembers.cons_word .colon).cons_word (Token.spells_renderString name)).cons_word
        .openBrace

/-- The items after the first are spelled by their writing. -/
theorem spells_renderItems (ds : List Document) (h : areSoundItems Number.isWritable ds = true) :
    SpellsTokens (tokensOfItems ds) (renderItems ds) := by
  have hend : SpellsTokens [] [] := .nil (by simp [IsSpacing])
  match ds with
  | [] => exact hend.cons_word .closeBracket
  | d :: ds =>
      obtain ⟨hd, hds⟩ := Bool.and_eq_true_iff.mp h
      exact ((spells_render d hd).append (spells_renderItems ds hds)).cons_word .comma

/-- The members after the first are spelled by their writing. -/
theorem spells_renderMembers (ds : List (Spelling × Document))
    (h : areSoundMembers Number.isWritable ds = true) :
    SpellsTokens (tokensOfMembers ds) (renderMembers ds) := by
  have hend : SpellsTokens [] [] := .nil (by simp [IsSpacing])
  match ds with
  | [] => exact hend.cons_word .closeBrace
  | (none, d) :: ds => cases h
  | (some name, d) :: ds =>
      obtain ⟨hd, hds⟩ := Bool.and_eq_true_iff.mp h
      have hmembers := (spells_render d hd).append (spells_renderMembers ds hds)
      exact ((hmembers.cons_word .colon).cons_word
        (Token.spells_renderString name)).cons_word .comma

end

variable {d : Document}

/-- **A document is spelled by its writing.** -/
theorem isSpelled_toText (h : d.isSound Number.isWritable = true) : d.IsSpelled d.toText := by
  rw [IsSpelled, toText, String.toList_ofList]
  exact spells_render d h

/-- **A document is read back** from its writing. -/
theorem read?_toText (h : d.isSound Number.isWritable = true) : read? d.toText = some d :=
  read?_eq_some_iff.mpr (isSpelled_toText h)

end Document

end TagTimeline.Json
