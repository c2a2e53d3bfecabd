import Mathlib.Data.List.Chain
import TagTimeline.Proofs.Json.Grammar
import TagTimeline.Proofs.Text.Digits

/-!
# Finding the Words of a Text

The machine that finds tokens finds exactly the words that a text spells. Where a word ends is not
left to the machine: a number goes on as long as it can, so words are only found again if something
that cannot continue it stands behind every number, as it does in documents.

## Main results

* `Token.spells_of_ofText?` — the tokens of a text are words that it spells.
* `Token.ofText?_of_spells` — words that a text spells are its tokens, if numbers end where they
  have to.
-/

namespace TagTimeline.Json

open TagTimeline.Text

/-! ### Digits -/

/-- The machine's decimal digits are those of text. -/
theorem PartialNumber.digit?_eq (c : Char) : digit? c = digitIn? 10 c := by
  rw [digitIn?_ten, digit?, isDigit]
  by_cases h : '0' ≤ c ∧ c ≤ '9' <;> simp [h]

/-- The machine's hexadecimal digits are those of text. -/
theorem Token.hexDigit?_eq (c : Char) : hexDigit? c = digitIn? 16 c := by
  have hle : ∀ a b : Char, a ≤ b ↔ a.toNat ≤ b.toNat := fun _ _ => Iff.rfl
  rw [hexDigit?, digitIn?, digitValue?]
  simp only [hle, Char.reduceToNat]
  generalize c.toNat = n
  grind

/-! ### Numbers -/

namespace PartialNumber

/-- A number continued by several characters. -/
def pushAll? (p : PartialNumber) (cs : List Char) : Option PartialNumber := cs.foldlM push? p

/-- A number that several characters begin. -/
def startAll? : List Char → Option PartialNumber
  | [] => none
  | c :: cs => (start? c).bind fun p => p.pushAll? cs

/-- A number is continued by one text after the other. -/
theorem pushAll?_append (p : PartialNumber) (xs ys : List Char) :
    p.pushAll? (xs ++ ys) = (p.pushAll? xs).bind fun p => p.pushAll? ys := by
  simp [pushAll?, List.foldlM_append, bind]

/-- A number that a text begins is continued by another. -/
theorem startAll?_append {p : PartialNumber} {xs : List Char} (h : startAll? xs = some p)
    (ys : List Char) : startAll? (xs ++ ys) = p.pushAll? ys := by
  cases xs with
  | nil => cases h
  | cons c xs =>
      obtain ⟨q, hstart, hpush⟩ := Option.bind_eq_some_iff.mp h
      rw [List.cons_append, startAll?, hstart, Option.bind_some, pushAll?_append, hpush]
      rfl

section

variable {negative exponentNegative : Bool} {n m places exponent : Nat} {ds : List Char}

/-- Digits go on within the whole part. -/
theorem pushAll?_whole (h : readDigits? 10 n ds = some m) :
    pushAll? ⟨.whole, negative, n, 0, false, 0⟩ ds = some ⟨.whole, negative, m, 0, false, 0⟩ := by
  induction ds generalizing n with
  | nil =>
      rw [← Option.some.inj h]
      rfl
  | cons c ds ih =>
      obtain ⟨d, hd, hds⟩ := Option.bind_eq_some_iff.mp h
      have hpush : push? ⟨.whole, negative, n, 0, false, 0⟩ c =
          some ⟨.whole, negative, n * 10 + d, 0, false, 0⟩ := by
        simp only [push?, digit?_eq, hd]
      rw [pushAll?, List.foldlM_cons, hpush]
      exact ih hds

/-- Digits go on behind the point. -/
theorem pushAll?_fraction (h : readDigits? 10 n ds = some m) :
    pushAll? ⟨.fraction, negative, n, places, false, 0⟩ ds =
      some ⟨.fraction, negative, m, places + ds.length, false, 0⟩ := by
  induction ds generalizing n places with
  | nil =>
      rw [← Option.some.inj h]
      rfl
  | cons c ds ih =>
      obtain ⟨d, hd, hds⟩ := Option.bind_eq_some_iff.mp h
      have hpush : push? ⟨.fraction, negative, n, places, false, 0⟩ c =
          some ⟨.fraction, negative, n * 10 + d, places + 1, false, 0⟩ := by
        simp only [push?, digit?_eq, hd]
      have hlength : places + (c :: ds).length = places + 1 + ds.length := by
        rw [List.length_cons]
        omega
      rw [pushAll?, List.foldlM_cons, hpush, hlength]
      exact ih hds

/-- Digits go on in an exponent. -/
theorem pushAll?_exponent (h : readDigits? 10 exponent ds = some m) :
    pushAll? ⟨.exponent, negative, n, places, exponentNegative, exponent⟩ ds =
      some ⟨.exponent, negative, n, places, exponentNegative, m⟩ := by
  induction ds generalizing exponent with
  | nil =>
      rw [← Option.some.inj h]
      rfl
  | cons c ds ih =>
      obtain ⟨d, hd, hds⟩ := Option.bind_eq_some_iff.mp h
      have hpush : push? ⟨.exponent, negative, n, places, exponentNegative, exponent⟩ c =
          some ⟨.exponent, negative, n, places, exponentNegative, exponent * 10 + d⟩ := by
        simp only [push?, digit?_eq, hd, Option.map_some]
      rw [pushAll?, List.foldlM_cons, hpush]
      exact ih hds

/-- The first digit of a number is no zero, or the only one before the point. -/
theorem phase_of_isWhole {c : Char} {d : Nat} (h : Number.IsWhole (c :: ds))
    (hd : digitIn? 10 c = some d) : d ≠ 0 ∨ ds = [] := by
  by_cases hzero : d = 0
  · refine .inr ?_
    have hc : c = '0' := eq_zero_of_digitIn? (hzero ▸ hd)
    have hsingle := h.2 (congrArg some hc)
    exact (List.cons.inj hsingle).2
  · exact .inl hzero

/-- **The whole part of a number** is read to its end. -/
theorem startAll?_whole (negative : Bool) (hds : Number.IsWhole ds)
    (hvalue : readDigits? 10 0 ds = some n) :
    ∃ phase, (phase = .zero ∨ phase = .whole) ∧
      startAll? (Number.sign negative ++ ds) = some ⟨phase, negative, n, 0, false, 0⟩ := by
  cases ds with
  | nil => exact absurd rfl hds.1
  | cons c ds =>
      obtain ⟨d, hd, hrest⟩ := Option.bind_eq_some_iff.mp hvalue
      rw [Nat.zero_mul, Nat.zero_add] at hrest
      have hstart : startAll? (Number.sign negative ++ c :: ds) =
          pushAll? ⟨if d = 0 then .zero else .whole, negative, d, 0, false, 0⟩ ds := by
        have hdigit : digit? c = some d := (digit?_eq c).trans hd
        cases negative with
        | true => simp [Number.sign, startAll?, start?, pushAll?, push?, hdigit, bind]
        | false =>
            have hminus : c ≠ '-' := by
              rintro rfl
              cases hdigit
            simp [Number.sign, startAll?, start?, hminus, hdigit]
      rcases phase_of_isWhole hds hd with hnonzero | hnil
      · refine ⟨.whole, .inr rfl, ?_⟩
        rw [hstart, if_neg hnonzero, pushAll?_whole hrest]
      · subst hnil
        rw [← Option.some.inj hrest]
        refine ⟨if d = 0 then .zero else .whole, ?_, hstart⟩
        by_cases hzero : d = 0 <;> simp [hzero]

/-- **The digits of a number** are read to their end, and an exponent may follow. -/
theorem startAll?_digits {places? : Option Nat} (h : Number.SpellsDigits n places? ds) :
    ∃ p, startAll? (Number.sign negative ++ ds) = some p ∧
      p.finish? = some ⟨negative, n, places?, none⟩ ∧
      ∀ mark, Number.IsMark mark →
        p.push? mark = some ⟨.mark, negative, n, places?.getD 0, false, 0⟩ := by
  cases h with
  | whole hds hvalue =>
      obtain ⟨phase, hphase, hstart⟩ := startAll?_whole negative hds hvalue
      refine ⟨_, hstart, ?_, fun mark hmark => ?_⟩
      · rcases hphase with rfl | rfl <;> rfl
      · rcases hphase with rfl | rfl <;> rcases hmark with rfl | rfl <;> rfl
  | @point ds fs hds hfs hvalue =>
      rw [readDigits?_append] at hvalue
      obtain ⟨whole, hwhole, hfraction⟩ := Option.bind_eq_some_iff.mp hvalue
      obtain ⟨phase, hphase, hstart⟩ := startAll?_whole negative hds hwhole
      cases fs with
      | nil => exact absurd rfl hfs
      | cons c fs =>
          obtain ⟨d, hd, hrest⟩ := Option.bind_eq_some_iff.mp hfraction
          have hpoint : pushAll? ⟨phase, negative, whole, 0, false, 0⟩ ('.' :: c :: fs) =
              pushAll? ⟨.fraction, negative, whole * 10 + d, 1, false, 0⟩ fs := by
            have hdigit : digit? c = some d := (digit?_eq c).trans hd
            have hnodigit : digit? '.' = none := by decide
            rcases hphase with rfl | rfl <;>
              simp [pushAll?, push?, hdigit, hnodigit, bind]
          have hend : startAll? (Number.sign negative ++ (ds ++ '.' :: c :: fs)) =
              some ⟨.fraction, negative, n, (c :: fs).length, false, 0⟩ := by
            rw [← List.append_assoc, startAll?_append hstart, hpoint, pushAll?_fraction hrest,
              Nat.add_comm, List.length_cons]
          refine ⟨_, hend, rfl, fun mark hmark => ?_⟩
          rcases hmark with rfl | rfl <;> rfl

/-- **A number** is read to its end. -/
theorem startAll?_of_isSpelled {number : Number} (h : number.IsSpelled ds) :
    ∃ p, startAll? ds = some p ∧ p.finish? = some number := by
  obtain ⟨digits, es, rfl, hdigits, hexponent⟩ := h
  obtain ⟨p, hstart, hfinish, hmark⟩ := startAll?_digits hdigits
  rw [← List.append_assoc, startAll?_append hstart]
  obtain ⟨negative, value, places?, exponent?⟩ := number
  cases hexponent with
  | absent => exact ⟨p, rfl, hfinish⟩
  | @present mark exponentNegative sign xs x hmark' hsign hvalue =>
      obtain ⟨hxs, hvalue⟩ := readNat?_eq_some_iff.mp hvalue
      cases xs with
      | nil => exact absurd rfl hxs
      | cons c xs =>
          obtain ⟨d, hd, hrest⟩ := Option.bind_eq_some_iff.mp hvalue
          rw [Nat.zero_mul, Nat.zero_add] at hrest
          have hdigit : digit? c = some d := (digit?_eq c).trans hd
          have hsigned : pushAll? p (mark :: (sign ++ c :: xs)) =
              pushAll? ⟨.exponent, negative, value, places?.getD 0, exponentNegative, d⟩ xs := by
            rw [pushAll?, List.foldlM_cons, hmark mark hmark']
            cases hsign with
            | absent =>
                have hplus : c ≠ '+' := by
                  rintro rfl
                  cases hdigit
                have hminus : c ≠ '-' := by
                  rintro rfl
                  cases hdigit
                simp [pushAll?, push?, hplus, hminus, hdigit]
            | plus => simp [pushAll?, push?, hdigit, bind]
            | minus => simp [pushAll?, push?, hdigit, bind]
          refine ⟨_, hsigned.trans (pushAll?_exponent hrest), ?_⟩
          cases hdigits with
          | whole => rfl
          | point _ hfs _ =>
              simp [finish?, hfs]

end

end PartialNumber

/-! ### Strings -/

namespace PartialString

/-- A half that has no other half is never made good. -/
theorem finish_of_broken {s : PartialString} (h : s.intact = false) (units : List Unit16) :
    (units.foldl push s).finish = none := by
  induction units generalizing s with
  | nil => simp [finish, h]
  | cons unit units ih =>
      refine ih ?_
      cases unit with
      | scalar c => simp [push, h]
      | highHalf code => simp [push, h]
      | lowHalf code =>
          rw [push]
          cases s.waiting with
          | some high => exact h
          | none => rfl

/-- Units are read as the characters that they stand for. -/
theorem finish_foldl_push (units : List Unit16) (reversed : List Char) :
    (units.foldl push ⟨reversed, true, none⟩).finish =
      (Unit16.characters? units).map fun cs => String.ofList (reversed.reverse ++ cs) := by
  induction units using Unit16.characters?.induct generalizing reversed with
  | case1 => simp [Unit16.characters?, finish]
  | case2 c units ih =>
      rw [List.foldl_cons, push, Unit16.characters?]
      simp [ih, Function.comp_def]
  | case3 high low units ih =>
      rw [List.foldl_cons, List.foldl_cons, push, push, Unit16.characters?]
      simp [ih, Function.comp_def]
  | case4 units hnil hscalar hpair =>
      have hnone : Unit16.characters? units = none := by
        unfold Unit16.characters?
        split
        · exact absurd rfl hnil
        · exact absurd rfl (hscalar _ _)
        · exact absurd rfl (hpair _ _ _)
        · rfl
      rw [hnone, Option.map_none]
      -- what is left begins with a half that has no other half behind or before it
      match units with
      | [] => exact absurd rfl hnil
      | .scalar c :: rest => exact absurd rfl (hscalar c rest)
      | .lowHalf low :: rest => exact finish_of_broken rfl rest
      | [.highHalf high] => rfl
      | .highHalf high :: .lowHalf low :: rest => exact absurd rfl (hpair high low rest)
      | .highHalf high :: .highHalf high' :: rest => exact finish_of_broken rfl rest
      | .highHalf high :: .scalar c :: rest => exact finish_of_broken rfl rest

/-- **A string is read as the text that its units stand for.** -/
theorem finish_units (units : List Unit16) :
    (units.foldl push empty).finish = Unit16.text? units := finish_foldl_push units []

end PartialString

namespace Token

/-! ### Running the machine -/

section

variable {acc : List Token} {cs : List Char}

/-- The machine reads a text character by character. -/
theorem scan_cons (start : Scan) (c : Char) (cs : List Char) :
    scan? start (c :: cs) = (advance? start c).bind fun s => scan? s cs := by
  simp [scan?, bind]

/-- A number is continued without a token. -/
theorem scan_pushAll {p q : PartialNumber} (h : p.pushAll? cs = some q) :
    scan? (acc, .number p) cs = some (acc, .number q) := by
  induction cs generalizing p with
  | nil =>
      rw [← Option.some.inj h]
      rfl
  | cons c cs ih =>
      rw [PartialNumber.pushAll?, List.foldlM_cons] at h
      obtain ⟨p', hpush, hrest⟩ := Option.bind_eq_some_iff.mp h
      have hadvance : advance? (acc, .number p) c = some (acc, .number p') := by
        simp [advance?, step?, hpush]
      rw [scan_cons, hadvance]
      exact ih hrest

/-- A number begins where a character can begin one. -/
theorem start?_of_number {c : Char} {p : PartialNumber} (h : PartialNumber.start? c = some p) :
    start? c = some ([], .number p) := by
  have hne : ∀ other, PartialNumber.start? other = none → c ≠ other := by
    rintro other hother rfl
    rw [hother] at h
    cases h
  have hspace : isSpace c = false := by
    simp [isSpace, hne ' ' (by decide), hne '\t' (by decide), hne '\n' (by decide),
      hne '\r' (by decide)]
  simp [start?, hspace, h, hne '\x7b' (by decide), hne '\x7d' (by decide), hne '[' (by decide),
    hne ']' (by decide), hne ':' (by decide), hne ',' (by decide), hne '\x22' (by decide),
    hne 'n' (by decide), hne 't' (by decide), hne 'f' (by decide)]

/-- The characters of a number make no token yet. -/
theorem scan_startAll {p : PartialNumber} (h : PartialNumber.startAll? cs = some p) :
    scan? (acc, .between) cs = some (acc, .number p) := by
  cases cs with
  | nil => cases h
  | cons c cs =>
      obtain ⟨q, hstart, hpush⟩ := Option.bind_eq_some_iff.mp h
      have hadvance : advance? (acc, .between) c = some (acc, .number q) := by
        simp [advance?, step?, start?_of_number hstart]
      rw [scan_cons, hadvance]
      exact scan_pushAll hpush

/-- **A unit of a string** is read from every way to spell it. -/
theorem scan_unit {s : PartialString} {unit : Unit16} (h : unit.Spells cs) :
    scan? (acc, .string s .plain) cs = some (acc, .string (s.push unit) .plain) := by
  cases h with
  | plain hcontrol hquote hescape =>
      simp [scan?, advance?, step?, stepString?, hcontrol, hquote, hescape]
  | @letter c letter hletter =>
      have hu : letter ≠ 'u' := by
        rintro rfl
        cases hletter
      simp [scan?, advance?, step?, stepString?, hletter, hu, bind]
  | @code ds code hlength hcode =>
      obtain ⟨a, b, c, d, rfl⟩ := List.length_eq_four.mp hlength
      obtain ⟨x, hx, hcode⟩ := Option.bind_eq_some_iff.mp hcode
      obtain ⟨y, hy, hcode⟩ := Option.bind_eq_some_iff.mp hcode
      obtain ⟨z, hz, hcode⟩ := Option.bind_eq_some_iff.mp hcode
      obtain ⟨w, hw, hcode⟩ := Option.bind_eq_some_iff.mp hcode
      rw [← hexDigit?_eq] at hx hy hz hw
      rw [← Option.some.inj hcode]
      simp [scan?, advance?, step?, stepString?, hx, hy, hz, hw, bind]

/-- Units of a string are read one after the other. -/
theorem scan_units {s : PartialString} {units : List Unit16} (h : Unit16.SpellsAll units cs) :
    scan? (acc, .string s .plain) cs =
      some (acc, .string (units.foldl PartialString.push s) .plain) := by
  induction h generalizing s with
  | nil => rfl
  | cons hunit _ ih =>
      rw [scan_append, scan_unit hunit]
      exact ih

/-- Blanks make no token. -/
theorem scan_spacing (h : IsSpacing cs) : scan? (acc, .between) cs = some (acc, .between) := by
  induction cs with
  | nil => rfl
  | cons c cs ih =>
      have hspace : isSpace c = true := h c List.mem_cons_self
      have hadvance : advance? (acc, .between) c = some (acc, .between) := by
        simp [advance?, step?, start?, hspace]
      rw [scan_cons, hadvance]
      exact ih fun c' hc' => h c' (List.mem_cons_of_mem c hc')

/-- **A word that is no number** is complete at its end. -/
theorem scan_word {token : Token} (h : token.Spells cs) (hnumber : ∀ n, token ≠ .number n) :
    scan? (acc, .between) cs = some (token :: acc, .between) := by
  cases h with
  | number _ => exact absurd rfl (hnumber _)
  | @string units cs hunits =>
      have hopen : advance? (acc, .between) '\x22' = some (acc, .string .empty .plain) := rfl
      have hclose : ∀ s, advance? (acc, .string s .plain) '\x22' =
          some (.string s.finish :: acc, .between) := fun _ => rfl
      rw [scan_cons, hopen, Option.bind_some, scan_append, scan_units hunits, Option.bind_some,
        scan_cons, hclose, PartialString.finish_units]
      rfl
  | _ => rfl

end

/-! ### Completeness -/

/-- The words that may stand behind a number. -/
def EndsNumber (token : Token) : Prop :=
  token = .comma ∨ token = .closeBracket ∨ token = .closeBrace

/-- **That a word may follow another**: every number has to be ended. -/
def MayFollow (token next : Token) : Prop := (∃ n, token = .number n) → next.EndsNumber

/-- The characters that end a number. -/
def IsEnd (c : Char) : Prop := isSpace c = true ∨ c = ',' ∨ c = ']' ∨ c = '\x7d'

/-- What stands behind a number ends it. -/
theorem isEnd_head? {tokens : List Token} {cs : List Char} (h : SpellsTokens tokens cs)
    (hends : ∀ token ∈ tokens.head?, token.EndsNumber) : ∀ c ∈ cs.head?, IsEnd c := by
  cases h with
  | nil hblank =>
      intro c hc
      exact .inl (hblank c (List.mem_of_mem_head? hc))
  | @cons token tokens blanks word cs hblanks htoken _ =>
      cases blanks with
      | cons b blanks =>
          intro c hc
          obtain rfl : b = c := Option.some.inj hc
          exact .inl (hblanks b List.mem_cons_self)
      | nil =>
          rcases hends token rfl with rfl | rfl | rfl <;> cases htoken <;> intro c hc <;>
            obtain rfl := Option.some.inj hc
          · exact .inr (.inl rfl)
          · exact .inr (.inr (.inl rfl))
          · exact .inr (.inr (.inr rfl))

/-- **A number ends** where a character cannot continue it, and the character begins a word. -/
theorem advance_number {acc : List Token} {p : PartialNumber} {n : Number} {c : Char}
    (hn : p.finish? = some n) (hc : IsEnd c) :
    advance? (acc, .number p) c = advance? (.number n :: acc, .between) c := by
  have hpush : p.push? c = none := by
    have hall : ∀ other, (PartialNumber.digit? other = none ∧ other ≠ '.' ∧ other ≠ '+' ∧
        other ≠ '-' ∧ other ≠ 'e' ∧ other ≠ 'E') → p.push? other = none := by
      rintro other ⟨hdigit, hpoint, hplus, hminus, he, hE⟩
      unfold PartialNumber.push? PartialNumber.mark?
      cases p.phase <;> simp [hdigit, hpoint, hplus, hminus, he, hE]
    refine hall c ?_
    simp only [IsEnd, isSpace, Bool.or_eq_true, decide_eq_true_eq] at hc
    rcases hc with (((rfl | rfl) | rfl) | rfl) | rfl | rfl | rfl <;> decide
  cases hstart : start? c with
  | none => simp [advance?, step?, hpush, hn, hstart]
  | some result => simp [advance?, step?, hpush, hn, hstart]

/-- A number that is ended stands as if it had been found before. -/
theorem finish_number {acc : List Token} {p : PartialNumber} {n : Number} {cs : List Char}
    (hn : p.finish? = some n) (hcs : ∀ c ∈ cs.head?, IsEnd c) :
    (scan? (acc, .number p) cs).bind finish? =
      (scan? (.number n :: acc, .between) cs).bind finish? := by
  cases cs with
  | nil => simp [scan?, finish?, hn]
  | cons c cs => rw [scan_cons, scan_cons, advance_number hn (hcs c rfl)]

/-- Words that a text spells are found, behind others. -/
theorem finish_scan {tokens acc : List Token} {cs : List Char} (h : SpellsTokens tokens cs)
    (hchain : tokens.IsChain MayFollow) :
    (scan? (acc, .between) cs).bind finish? = some (tokens.reverse ++ acc) := by
  induction h generalizing acc with
  | nil hblank =>
      rw [scan_spacing hblank]
      rfl
  | @cons token tokens blanks word cs hblanks htoken htokens ih =>
      obtain ⟨hfollow, hrest⟩ := List.isChain_cons.mp hchain
      rw [List.reverse_cons, List.append_assoc, List.singleton_append, scan_append,
        scan_spacing hblanks, Option.bind_some, scan_append]
      by_cases hnumber : ∃ n, token = .number n
      · obtain ⟨n, rfl⟩ := hnumber
        cases htoken with
        | number hn =>
            obtain ⟨p, hstart, hfinish⟩ := PartialNumber.startAll?_of_isSpelled hn
            have hend := isEnd_head? htokens fun next hnext => hfollow next hnext ⟨n, rfl⟩
            rw [scan_startAll hstart, Option.bind_some, finish_number hfinish hend]
            exact ih hrest
      · rw [scan_word htoken fun n hn => hnumber ⟨n, hn⟩]
        exact ih hrest

/-- **Words that a text spells are its tokens**, if every number ends where it has to. -/
theorem ofText?_of_spells {tokens : List Token} {cs : List Char} (h : SpellsTokens tokens cs)
    (hchain : tokens.IsChain MayFollow) : ofText? cs = some tokens := by
  rw [ofText?, finish_scan h hchain, Option.map_some, List.append_nil, List.reverse_reverse]

/-! ### Soundness -/

end Token

namespace PartialNumber

/-- **What a number that is being read has read**, phase by phase. -/
inductive Reads : PartialNumber → List Char → Prop where
  | sign : Reads ⟨.sign, true, 0, 0, false, 0⟩ ['-']
  | zero (negative : Bool) :
      Reads ⟨.zero, negative, 0, 0, false, 0⟩ (Number.sign negative ++ ['0'])
  | whole (negative : Bool) {ds : List Char} {n : Nat} (hds : ds ≠ [])
      (hzero : ds.head? ≠ some '0') (hvalue : readDigits? 10 0 ds = some n) :
      Reads ⟨.whole, negative, n, 0, false, 0⟩ (Number.sign negative ++ ds)
  | point (negative : Bool) {ds : List Char} {n : Nat} (hds : Number.IsWhole ds)
      (hvalue : readDigits? 10 0 ds = some n) :
      Reads ⟨.point, negative, n, 0, false, 0⟩ (Number.sign negative ++ (ds ++ ['.']))
  | fraction (negative : Bool) {ds fs : List Char} {n : Nat} (hds : Number.IsWhole ds)
      (hfs : fs ≠ []) (hvalue : readDigits? 10 0 (ds ++ fs) = some n) :
      Reads ⟨.fraction, negative, n, fs.length, false, 0⟩
        (Number.sign negative ++ (ds ++ '.' :: fs))
  | mark (negative : Bool) {ds : List Char} {n : Nat} {places? : Option Nat} {mark : Char}
      (hdigits : Number.SpellsDigits n places? ds) (hmark : Number.IsMark mark) :
      Reads ⟨.mark, negative, n, places?.getD 0, false, 0⟩
        (Number.sign negative ++ (ds ++ [mark]))
  | markSign (negative : Bool) {ds : List Char} {n : Nat} {places? : Option Nat} {mark : Char}
      {exponentNegative : Bool} {sign : List Char} (hdigits : Number.SpellsDigits n places? ds)
      (hmark : Number.IsMark mark) (hsign : Number.SpellsSign exponentNegative sign)
      (hne : sign ≠ []) :
      Reads ⟨.markSign, negative, n, places?.getD 0, exponentNegative, 0⟩
        (Number.sign negative ++ (ds ++ mark :: sign))
  | exponent (negative : Bool) {ds es : List Char} {n exponent : Nat} {places? : Option Nat}
      {mark : Char} {exponentNegative : Bool} {sign : List Char}
      (hdigits : Number.SpellsDigits n places? ds) (hmark : Number.IsMark mark)
      (hsign : Number.SpellsSign exponentNegative sign) (hvalue : readNat? 10 es = some exponent) :
      Reads ⟨.exponent, negative, n, places?.getD 0, exponentNegative, exponent⟩
        (Number.sign negative ++ (ds ++ mark :: (sign ++ es)))

/-- The first digit of a number. -/
theorem Reads.first (negative : Bool) {c : Char} {d : Nat} (h : digit? c = some d) :
    Reads ⟨if d = 0 then .zero else .whole, negative, d, 0, false, 0⟩
      (Number.sign negative ++ [c]) := by
  rw [digit?_eq] at h
  by_cases hd : d = 0
  · subst hd
    rw [eq_zero_of_digitIn? h]
    exact .zero negative
  · rw [if_neg hd]
    refine .whole negative (List.cons_ne_nil _ _) ?_ ?_
    · intro hhead
      have hc : c = '0' := Option.some.inj hhead
      have hzero : digitIn? 10 '0' = some 0 := by decide
      rw [hc, hzero] at h
      exact hd (Option.some.inj h).symm
    · exact (readNat?_eq_some_iff.mp (readNat?_single h)).2

/-- What a number begins with. -/
theorem reads_start {c : Char} {p : PartialNumber} (h : start? c = some p) : p.Reads [c] := by
  rw [start?] at h
  by_cases hminus : c = '-'
  · rw [if_pos hminus] at h
    obtain rfl := Option.some.inj h
    rw [hminus]
    exact .sign
  · rw [if_neg hminus] at h
    obtain ⟨d, hd, rfl⟩ := Option.map_eq_some_iff.mp h
    exact Reads.first false hd

/-- An exponent mark behind the digits of a number. -/
theorem Reads.push_mark {p q : PartialNumber} {c : Char} {negative : Bool} {ds : List Char}
    {n : Nat} {places? : Option Nat} (hdigits : Number.SpellsDigits n places? ds)
    (hq : { p with phase := .mark } =
      (⟨.mark, negative, n, places?.getD 0, false, 0⟩ : PartialNumber))
    (h : p.mark? c = some q) : q.Reads (Number.sign negative ++ (ds ++ [c])) := by
  rw [mark?] at h
  by_cases hmark : c = 'e' ∨ c = 'E'
  · rw [if_pos hmark, hq] at h
    rw [← Option.some.inj h]
    exact .mark negative hdigits hmark
  · rw [if_neg hmark] at h
    cases h

/-- **One character more of a number.** -/
theorem Reads.push {p q : PartialNumber} {cs : List Char} {c : Char} (h : p.Reads cs)
    (hpush : p.push? c = some q) : q.Reads (cs ++ [c]) := by
  have hzero : Number.IsWhole ['0'] := ⟨List.cons_ne_nil _ _, fun _ => rfl⟩
  cases h with
  | sign =>
      obtain ⟨d, hd, rfl⟩ := Option.map_eq_some_iff.mp hpush
      exact Reads.first true hd
  | zero negative =>
      simp only [push?] at hpush
      rw [List.append_assoc]
      by_cases hpoint : c = '.'
      · rw [if_pos hpoint] at hpush
        rw [← Option.some.inj hpush, hpoint]
        exact .point negative hzero rfl
      · rw [if_neg hpoint] at hpush
        exact Reads.push_mark (.whole hzero rfl) rfl hpush
  | @whole negative ds n hds hhead hvalue =>
      have hwhole : Number.IsWhole ds := ⟨hds, fun h => absurd h hhead⟩
      simp only [push?] at hpush
      rw [List.append_assoc]
      cases hdigit : digit? c with
      | some d =>
          rw [hdigit] at hpush
          rw [← Option.some.inj hpush]
          rw [digit?_eq] at hdigit
          refine .whole negative (by simp) ?_ (readDigits?_concat hvalue hdigit)
          rw [List.head?_append]
          cases ds with
          | nil => exact absurd rfl hds
          | cons first ds => exact hhead
      | none =>
          rw [hdigit] at hpush
          by_cases hpoint : c = '.'
          · simp only [if_pos hpoint] at hpush
            rw [← Option.some.inj hpush, hpoint]
            exact .point negative hwhole hvalue
          · simp only [if_neg hpoint] at hpush
            exact Reads.push_mark (.whole hwhole hvalue) rfl hpush
  | @point negative ds n hds hvalue =>
      obtain ⟨d, hd, rfl⟩ := Option.map_eq_some_iff.mp hpush
      rw [digit?_eq] at hd
      have hfraction := Reads.fraction negative hds (List.cons_ne_nil c [])
        (readDigits?_concat hvalue hd)
      simpa using hfraction
  | @fraction negative ds fs n hds hfs hvalue =>
      simp only [push?] at hpush
      cases hdigit : digit? c with
      | some d =>
          rw [hdigit] at hpush
          rw [← Option.some.inj hpush]
          rw [digit?_eq] at hdigit
          have hvalue' := readDigits?_concat hvalue hdigit
          rw [List.append_assoc] at hvalue'
          have hfraction := Reads.fraction negative hds (by simp : fs ++ [c] ≠ []) hvalue'
          simpa using hfraction
      | none =>
          rw [hdigit] at hpush
          rw [List.append_assoc]
          exact Reads.push_mark (.point hds hfs hvalue) rfl hpush
  | @mark negative ds n places? mark hdigits hmark =>
      simp only [push?] at hpush
      by_cases hplus : c = '+'
      · rw [if_pos hplus] at hpush
        rw [← Option.some.inj hpush, hplus]
        simpa using Reads.markSign negative hdigits hmark .plus (by simp)
      · rw [if_neg hplus] at hpush
        by_cases hminus : c = '-'
        · rw [if_pos hminus] at hpush
          rw [← Option.some.inj hpush, hminus]
          simpa using Reads.markSign negative hdigits hmark .minus (by simp)
        · rw [if_neg hminus] at hpush
          obtain ⟨d, hd, rfl⟩ := Option.map_eq_some_iff.mp hpush
          have hvalue := readNat?_single ((digit?_eq c).symm.trans hd)
          simpa using Reads.exponent negative hdigits hmark .absent hvalue
  | @markSign negative ds n places? mark exponentNegative sign hdigits hmark hsign _ =>
      obtain ⟨d, hd, rfl⟩ := Option.map_eq_some_iff.mp hpush
      have hvalue := readNat?_single ((digit?_eq c).symm.trans hd)
      simpa using Reads.exponent negative hdigits hmark hsign hvalue
  | @exponent negative ds es n exponent places? mark exponentNegative sign hdigits hmark hsign
      hvalue =>
      obtain ⟨d, hd, rfl⟩ := Option.map_eq_some_iff.mp hpush
      rw [digit?_eq] at hd
      obtain ⟨hes, hvalue⟩ := readNat?_eq_some_iff.mp hvalue
      have hvalue' : readNat? 10 (es ++ [c]) = some (exponent * 10 + d) :=
        readNat?_eq_some_iff.mpr ⟨by simp, readDigits?_concat hvalue hd⟩
      simpa using Reads.exponent negative hdigits hmark hsign hvalue'

/-- **A number that may end** spells what has been read. -/
theorem Reads.isSpelled {p : PartialNumber} {n : Number} {cs : List Char} (h : p.Reads cs)
    (hn : p.finish? = some n) : n.IsSpelled cs := by
  cases h with
  | sign | point | mark | markSign => cases hn
  | zero negative =>
      obtain rfl := Option.some.inj hn
      have hzero : Number.IsWhole ['0'] := ⟨List.cons_ne_nil _ _, fun _ => rfl⟩
      exact ⟨['0'], [], rfl, .whole hzero rfl, .absent⟩
  | whole negative hds hhead hvalue =>
      obtain rfl := Option.some.inj hn
      exact ⟨_, [], by simp, .whole ⟨hds, fun h => absurd h hhead⟩ hvalue, .absent⟩
  | @fraction negative ds fs n hds hfs hvalue =>
      have hlength : (if fs.length = 0 then none else some fs.length) = some fs.length := by
        rw [if_neg (by simpa using hfs)]
      simp only [finish?, hlength] at hn
      obtain rfl := Option.some.inj hn
      exact ⟨_, [], by simp, .point hds hfs hvalue, .absent⟩
  | @exponent negative ds es n exponent places? mark exponentNegative sign hdigits hmark hsign
      hvalue =>
      have hplaces : (if places?.getD 0 = 0 then none else some (places?.getD 0)) = places? := by
        cases hdigits with
        | whole => rfl
        | point _ hfs _ => simp [hfs]
      simp only [finish?, hplaces] at hn
      obtain rfl := Option.some.inj hn
      exact ⟨ds, _, rfl, hdigits, .present hmark hsign hvalue⟩

end PartialNumber

namespace Token

/-- **What the machine has read of a word** that is not complete. -/
inductive Reads : ScanState → List Char → Prop where
  | between : Reads .between []
  | keyword {done rest : List Char} {token : Token} (hword : token.Spells (done ++ rest))
      (hrest : rest ≠ []) : Reads (.keyword rest token) done
  | number {p : PartialNumber} {cs : List Char} (hp : p.Reads cs) : Reads (.number p) cs
  | plain {units : List Unit16} {cs : List Char} (hunits : Unit16.SpellsAll units cs) :
      Reads (.string (units.foldl PartialString.push .empty) .plain) ('\x22' :: cs)
  | escape {units : List Unit16} {cs : List Char} (hunits : Unit16.SpellsAll units cs) :
      Reads (.string (units.foldl PartialString.push .empty) .escape) ('\x22' :: (cs ++ ['\x5c']))
  | code {units : List Unit16} {cs ds : List Char} {left value : Nat}
      (hunits : Unit16.SpellsAll units cs) (hlength : ds.length + left = 3)
      (hvalue : readDigits? 16 0 ds = some value) :
      Reads (.string (units.foldl PartialString.push .empty) (.code left value))
        ('\x22' :: (cs ++ '\x5c' :: 'u' :: ds))

/-- What has been read, as the words that are complete and a part of the next. -/
def Splits (tokens : List Token) (state : ScanState) (cs : List Char) : Prop :=
  ∃ done pending, cs = done ++ pending ∧ SpellsTokens tokens done ∧ Reads state pending

/-- Nothing is complete yet. -/
theorem Splits.pending {state : ScanState} {cs : List Char} (h : Reads state cs) :
    Splits [] state cs := ⟨[], cs, rfl, .nil (by simp [IsSpacing]), h⟩

/-- A word is complete. -/
theorem Splits.complete {token : Token} {cs : List Char} (h : token.Spells cs) :
    Splits [token] .between cs := by
  have hnone : SpellsTokens [] [] := .nil (by simp [IsSpacing])
  refine ⟨cs, [], (List.append_nil _).symm, ?_, .between⟩
  rw [← List.append_nil cs]
  exact hnone.cons_word h

/-- What stands in front of more text. -/
theorem Splits.append {xs ys : List Token} {state : ScanState} {cs ds : List Char}
    (hxs : SpellsTokens xs cs) (h : Splits ys state ds) : Splits (xs ++ ys) state (cs ++ ds) := by
  obtain ⟨done, pending, rfl, hdone, hpending⟩ := h
  exact ⟨cs ++ done, pending, (List.append_assoc _ _ _).symm, hxs.append hdone, hpending⟩

/-- A character is one that something is made of, or what is made of any other. -/
theorem splits_ite {c mark : Char} {made : List Token × ScanState} {tokens : List Token}
    {next : ScanState} {others : Option (List Token × ScanState)}
    (h : (if c = mark then some made else others) = some (tokens, next))
    (hmade : Splits made.1 made.2 [mark])
    (hothers : others = some (tokens, next) → Splits tokens next [c]) : Splits tokens next [c] := by
  by_cases hmark : c = mark
  · rw [if_pos hmark] at h
    cases h
    rwa [hmark]
  · rw [if_neg hmark] at h
    exact hothers h

/-- **The first character of a word**, or a blank. -/
theorem splits_start {c : Char} {tokens : List Token} {next : ScanState}
    (h : start? c = some (tokens, next)) : Splits tokens next [c] := by
  rw [start?] at h
  by_cases hspace : isSpace c = true
  · rw [if_pos hspace] at h
    cases h
    exact ⟨[c], [], rfl, .nil (by simpa [IsSpacing] using hspace), .between⟩
  rw [if_neg hspace] at h
  refine splits_ite h (.complete .openBrace) fun h => ?_
  refine splits_ite h (.complete .closeBrace) fun h => ?_
  refine splits_ite h (.complete .openBracket) fun h => ?_
  refine splits_ite h (.complete .closeBracket) fun h => ?_
  refine splits_ite h (.complete .colon) fun h => ?_
  refine splits_ite h (.complete .comma) fun h => ?_
  refine splits_ite h (.pending (.plain .nil)) fun h => ?_
  refine splits_ite h (.pending (.keyword .null (by simp))) fun h => ?_
  refine splits_ite h (.pending (.keyword .true (by simp))) fun h => ?_
  refine splits_ite h (.pending (.keyword .false (by simp))) fun h => ?_
  -- what is left is the start of a number
  obtain ⟨p, hp, hresult⟩ := Option.map_eq_some_iff.mp h
  cases hresult
  exact .pending (.number (PartialNumber.reads_start hp))

/-- One unit more of a string. -/
theorem spellsAll_concat {units : List Unit16} {unit : Unit16} {cs word : List Char}
    (h : Unit16.SpellsAll units cs) (hunit : unit.Spells word) :
    Unit16.SpellsAll (units ++ [unit]) (cs ++ word) := by
  induction h with
  | nil => simpa using Unit16.SpellsAll.cons hunit .nil
  | cons hfirst _ ih =>
      rw [List.append_assoc, List.cons_append]
      exact .cons hfirst ih

/-- A string with one unit more. -/
theorem Reads.plain_concat {units : List Unit16} {unit : Unit16} {cs word : List Char}
    (h : Unit16.SpellsAll units cs) (hunit : unit.Spells word) :
    Reads (.string ((units.foldl PartialString.push .empty).push unit) .plain)
      ('\x22' :: (cs ++ word)) := by
  have hplain := Reads.plain (spellsAll_concat h hunit)
  rwa [List.foldl_append] at hplain

/-- **One character more of a string.** -/
theorem splits_stepString {s : PartialString} {phase : StringPhase} {cs : List Char} {c : Char}
    {tokens : List Token} {next : ScanState} (h : Reads (.string s phase) cs)
    (hstep : stepString? s phase c = some (tokens, next)) : Splits tokens next (cs ++ [c]) := by
  cases h with
  | @plain units cs hunits =>
      simp only [stepString?] at hstep
      split at hstep
      · next hc =>
          cases hstep
          rw [PartialString.finish_units, hc]
          exact .complete (.string hunits)
      · next hquote =>
          split at hstep
          · next hc =>
              cases hstep
              rw [hc]
              exact .pending (.escape hunits)
          · next hescape =>
              split at hstep
              · cases hstep
              · next hcontrol =>
                  cases hstep
                  exact .pending (.plain_concat hunits (.plain hcontrol hquote hescape))
  | @escape units cs hunits =>
      simp only [stepString?] at hstep
      split at hstep
      · next hc =>
          cases hstep
          rw [hc]
          have hnone : readDigits? 16 0 [] = some 0 := rfl
          have hcode := Reads.code hunits (Nat.zero_add 3) hnone
          exact .pending (by simpa using hcode)
      · obtain ⟨e, he, hresult⟩ := Option.map_eq_some_iff.mp hstep
        cases hresult
        have hplain := Reads.plain_concat hunits (.letter he)
        exact .pending (by simpa using hplain)
  | @code units cs ds left value hunits hlength hvalue =>
      obtain ⟨d, hd, hresult⟩ := Option.map_eq_some_iff.mp hstep
      rw [hexDigit?_eq] at hd
      have hvalue' := readDigits?_concat hvalue hd
      cases left with
      | zero =>
          cases hresult
          have hplain := Reads.plain_concat hunits (.code (by simpa using hlength) hvalue')
          exact .pending (by simpa using hplain)
      | succ left =>
          cases hresult
          have hlength' : (ds ++ [c]).length + left = 3 := by
            rw [List.length_append, List.length_singleton]
            omega
          have hcode := Reads.code hunits hlength' hvalue'
          exact .pending (by simpa using hcode)

/-- **One step of the machine**: what it has read is words that are complete and a part of the
next. -/
theorem splits_step {state next : ScanState} {cs : List Char} {c : Char} {tokens : List Token}
    (h : Reads state cs) (hstep : step? state c = some (tokens, next)) :
    Splits tokens next (cs ++ [c]) := by
  cases h with
  | between => exact splits_start hstep
  | @keyword done rest token hword hrest =>
      match rest with
      | [] => exact absurd rfl hrest
      | [l] =>
          simp only [step?] at hstep
          split at hstep
          · next hc =>
              cases hstep
              rw [hc]
              exact .complete hword
          · cases hstep
      | l :: l' :: rest =>
          simp only [step?] at hstep
          split at hstep
          · next hc =>
              cases hstep
              rw [hc]
              exact .pending (.keyword (by simpa using hword) (by simp))
          · cases hstep
  | @number p cs hp =>
      simp only [step?] at hstep
      cases hpush : p.push? c with
      | some q =>
          rw [hpush] at hstep
          cases hstep
          exact .pending (.number (hp.push hpush))
      | none =>
          rw [hpush] at hstep
          cases hfinish : p.finish? with
          | none =>
              rw [hfinish] at hstep
              cases hstep
          | some n =>
              rw [hfinish] at hstep
              obtain ⟨⟨tokens', next'⟩, hstart, hresult⟩ := Option.map_eq_some_iff.mp hstep
              cases hresult
              have hnone : SpellsTokens [] [] := .nil (by simp [IsSpacing])
              have hnumber := hnone.cons_word (.number (hp.isSpelled hfinish))
              rw [List.append_nil] at hnumber
              exact .append hnumber (splits_start hstart)
  | plain hunits => exact splits_stepString (.plain hunits) hstep
  | escape hunits => exact splits_stepString (.escape hunits) hstep
  | code hunits hlength hvalue => exact splits_stepString (.code hunits hlength hvalue) hstep

/-- **The machine has read words that are complete and a part of the next**, all along. -/
theorem splits_scan {tokens tokens' : List Token} {state state' : ScanState} {cs ds : List Char}
    (h : Splits tokens.reverse state cs)
    (hscan : scan? (tokens, state) ds = some (tokens', state')) :
    Splits tokens'.reverse state' (cs ++ ds) := by
  induction ds generalizing tokens state cs with
  | nil =>
      cases hscan
      rwa [List.append_nil]
  | cons c ds ih =>
      rw [scan_cons] at hscan
      obtain ⟨⟨tokens₁, state₁⟩, hadvance, hrest⟩ := Option.bind_eq_some_iff.mp hscan
      obtain ⟨⟨new, next⟩, hstep, hresult⟩ := Option.map_eq_some_iff.mp hadvance
      cases hresult
      obtain ⟨done, pending, rfl, hdone, hpending⟩ := h
      have hsplit : Splits (new.reverse ++ tokens).reverse state₁ (done ++ pending ++ [c]) := by
        rw [List.reverse_append, List.reverse_reverse, List.append_assoc]
        exact .append hdone (splits_step hpending hstep)
      have hall := ih hsplit hrest
      rwa [List.append_assoc, List.singleton_append] at hall

/-- **The tokens of a text are words that it spells.** -/
theorem spells_of_ofText? {tokens : List Token} {cs : List Char} (h : ofText? cs = some tokens) :
    SpellsTokens tokens cs := by
  obtain ⟨reversed, hfinish, rfl⟩ := Option.map_eq_some_iff.mp h
  obtain ⟨⟨found, state⟩, hscan, hfinish⟩ := Option.bind_eq_some_iff.mp hfinish
  have hstart : Splits [].reverse .between [] := .pending .between
  obtain ⟨done, pending, hcs, hdone, hpending⟩ := splits_scan hstart hscan
  rw [List.nil_append] at hcs
  rw [hcs]
  clear hscan hcs
  cases hpending with
  | between =>
      cases hfinish
      rwa [List.append_nil]
  | number hp =>
      obtain ⟨n, hn, rfl⟩ := Option.map_eq_some_iff.mp hfinish
      have hnone : SpellsTokens [] [] := .nil (by simp [IsSpacing])
      have hnumber := hnone.cons_word (.number (hp.isSpelled hn))
      rw [List.append_nil] at hnumber
      rw [List.reverse_cons]
      exact hdone.append hnumber
  | keyword | plain | escape | code => cases hfinish

/-! ### More text -/

/-- Tokens that were found before make no difference to the machine. -/
theorem scan_behind (found acc : List Token) (state : ScanState) (cs : List Char) :
    scan? (found ++ acc, state) cs =
      (scan? (found, state) cs).map fun s => (s.1 ++ acc, s.2) := by
  induction cs generalizing found state with
  | nil => rfl
  | cons c cs ih =>
      rw [scan_cons, scan_cons]
      cases hstep : step? state c with
      | none => simp [advance?, hstep]
      | some result =>
          simp only [advance?, hstep, Option.map_some, Option.bind_some, ← List.append_assoc]
          exact ih _ _

/-- **More text behind words that end** is read by itself. -/
theorem ofText?_append {tokens : List Token} {cs : List Char} (h : ofText? cs = some tokens)
    (hlast : ∀ n, tokens.getLast? ≠ some (.number n)) (ds : List Char) :
    ofText? (cs ++ ds) = (ofText? ds).map (tokens ++ ·) := by
  obtain ⟨reversed, hfinish, rfl⟩ := Option.map_eq_some_iff.mp h
  obtain ⟨⟨found, state⟩, hscan, hfinish⟩ := Option.bind_eq_some_iff.mp hfinish
  cases state with
  | between =>
      cases hfinish
      have hrest : scan? (found, .between) ds = _ := scan_behind [] found .between ds
      rw [ofText?, scan_append, hscan, Option.bind_some, hrest, ofText?]
      cases scan? ([], .between) ds with
      | none => rfl
      | some s =>
          obtain ⟨more, state⟩ := s
          cases state with
          | number p => cases hp : p.finish? <;> simp [finish?, hp]
          | between | keyword | string => simp [finish?]
  | number p =>
      obtain ⟨n, -, rfl⟩ := Option.map_eq_some_iff.mp hfinish
      exact absurd (by simp) (hlast n)
  | keyword | string => cases hfinish

end Token

end TagTimeline.Json
