import TagTimeline.Json.Reader
import TagTimeline.Text.Integer

/-!
# The Grammar of JSON

Which texts spell which documents, by the rules of JSON and without a machine that reads them. A
text is a sequence of words with blanks before, between and behind them. A number has no leading
zero and digits on both sides of its point; a string is spelled unit by unit, each as itself, by a
letter behind a backslash or by its code, so that a character may be spelled in several ways and one
beyond the first plane also as two halves.

## Main results

* `Token.Spells` — the ways to spell a word.
* `Document.IsSpelled` — the ways to spell a document.
-/

namespace TagTimeline.Json

open TagTimeline.Text

/-! ### Numbers -/

namespace Number

/-- That digits have no leading zero, but for a single zero, and there are some. -/
def IsWhole (ds : List Char) : Prop := ds ≠ [] ∧ (ds.head? = some '0' → ds = ['0'])

/-- **The digits of a number before its exponent**: their value, how many of them stand behind a
point, and their spelling. -/
inductive SpellsDigits : Nat → Option Nat → List Char → Prop where
  | whole {n : Nat} {ds : List Char} (hds : IsWhole ds) (hvalue : readDigits? 10 0 ds = some n) :
      SpellsDigits n none ds
  | point {n : Nat} {ds fs : List Char} (hds : IsWhole ds) (hfs : fs ≠ [])
      (hvalue : readDigits? 10 0 (ds ++ fs) = some n) :
      SpellsDigits n (some fs.length) (ds ++ '.' :: fs)

/-- The sign of an exponent, which may be left out. -/
inductive SpellsSign : Bool → List Char → Prop where
  | absent : SpellsSign false []
  | plus : SpellsSign false ['+']
  | minus : SpellsSign true ['-']

/-- That a character marks an exponent. -/
def IsMark (c : Char) : Prop := c = 'e' ∨ c = 'E'

/-- **The exponent of a number** with its mark, if there is one. -/
inductive SpellsExponent : Option Int → List Char → Prop where
  | absent : SpellsExponent none []
  | present {mark : Char} {negative : Bool} {sign ds : List Char} {n : Nat} (hmark : IsMark mark)
      (hsign : SpellsSign negative sign) (hvalue : readNat? 10 ds = some n) :
      SpellsExponent (some (if negative then -(n : Int) else n)) (mark :: (sign ++ ds))

/-- The minus sign of a negative number. -/
def sign (negative : Bool) : List Char := if negative then ['-'] else []

/-- **That a text spells a number.** -/
def IsSpelled (n : Number) (cs : List Char) : Prop :=
  ∃ ds es, cs = sign n.negative ++ (ds ++ es) ∧ SpellsDigits n.digits n.fraction ds ∧
    SpellsExponent n.exponent es

end Number

/-! ### Strings -/

namespace Unit16

/-- **The ways to spell a unit of a string**: a character that needs no escape by itself, some
characters by a letter, and every code by its hexadecimal digits. -/
inductive Spells : Unit16 → List Char → Prop where
  | plain {c : Char} (hcontrol : ¬ c.toNat < 0x20) (hquote : c ≠ '\x22') (hescape : c ≠ '\x5c') :
      Spells (.scalar c) [c]
  | letter {c letter : Char} (hletter : Token.escaped? letter = some c) :
      Spells (.scalar c) ['\x5c', letter]
  | code {ds : List Char} {code : Nat} (hlength : ds.length = 4)
      (hcode : readDigits? 16 0 ds = some code) : Spells (ofCode code) ('\x5c' :: 'u' :: ds)

/-- Units one after the other. -/
inductive SpellsAll : List Unit16 → List Char → Prop where
  | nil : SpellsAll [] []
  | cons {unit : Unit16} {units : List Unit16} {word cs : List Char} (hunit : unit.Spells word)
      (hunits : SpellsAll units cs) : SpellsAll (unit :: units) (word ++ cs)

/-- **The characters that units stand for**: two halves of a pair for one character, and a half by
itself for none. -/
def characters? : List Unit16 → Option (List Char)
  | [] => some []
  | .scalar c :: units => (characters? units).map (c :: ·)
  | .highHalf high :: .lowHalf low :: units => (characters? units).map (pair high low :: ·)
  | _ => none

/-- The text that units stand for, if they stand for one. -/
def text? (units : List Unit16) : Spelling := (characters? units).map String.ofList

end Unit16

/-! ### Words and documents -/

/-- **The ways to spell a word.** -/
inductive Token.Spells : Token → List Char → Prop where
  | openBrace : Spells .openBrace ['\x7b']
  | closeBrace : Spells .closeBrace ['\x7d']
  | openBracket : Spells .openBracket ['[']
  | closeBracket : Spells .closeBracket [']']
  | colon : Spells .colon [':']
  | comma : Spells .comma [',']
  | null : Spells .null ['n', 'u', 'l', 'l']
  | true : Spells (.bool true) ['t', 'r', 'u', 'e']
  | false : Spells (.bool false) ['f', 'a', 'l', 's', 'e']
  | number {n : Number} {cs : List Char} (hn : n.IsSpelled cs) : Spells (.number n) cs
  | string {units : List Unit16} {cs : List Char} (hunits : Unit16.SpellsAll units cs) :
      Spells (.string (Unit16.text? units)) ('\x22' :: (cs ++ ['\x22']))

/-- That a text may stand between words: spaces, tabs, line feeds and carriage returns alone. -/
def IsSpacing (cs : List Char) : Prop := ∀ c ∈ cs, Token.isSpace c = true

/-- **Words with blanks** before, between and behind them. -/
inductive SpellsTokens : List Token → List Char → Prop where
  | nil {cs : List Char} (hblank : IsSpacing cs) : SpellsTokens [] cs
  | cons {token : Token} {tokens : List Token} {blanks word cs : List Char}
      (hblanks : IsSpacing blanks) (htoken : token.Spells word) (htokens : SpellsTokens tokens cs) :
      SpellsTokens (token :: tokens) (blanks ++ (word ++ cs))

namespace Document

mutual

/-- **The words of a document.** -/
def tokens : Document → List Token
  | .null => [.null]
  | .bool b => [.bool b]
  | .number n => [.number n]
  | .string s => [.string s]
  | .array [] => [.openBracket, .closeBracket]
  | .array (d :: ds) => .openBracket :: (d.tokens ++ tokensOfItems ds)
  | .object [] => [.openBrace, .closeBrace]
  | .object ((name, d) :: ds) =>
      .openBrace :: .string name :: .colon :: (d.tokens ++ tokensOfMembers ds)

/-- The words of the items after the first, with the closing bracket. -/
def tokensOfItems : List Document → List Token
  | [] => [.closeBracket]
  | d :: ds => .comma :: (d.tokens ++ tokensOfItems ds)

/-- The words of the members after the first, with the closing brace. -/
def tokensOfMembers : List (Spelling × Document) → List Token
  | [] => [.closeBrace]
  | (name, d) :: ds => .comma :: .string name :: .colon :: (d.tokens ++ tokensOfMembers ds)

end

/-- **That a text spells a document**: it spells the words of the document. -/
def IsSpelled (d : Document) (text : String) : Prop := SpellsTokens d.tokens text.toList

end Document

/-! ### Texts joined and cut -/

/-- Blanks one after the other are blanks. -/
theorem IsSpacing.append {bs cs : List Char} (hbs : IsSpacing bs) (hcs : IsSpacing cs) :
    IsSpacing (bs ++ cs) := by
  intro c hc
  rcases List.mem_append.mp hc with h | h
  · exact hbs c h
  · exact hcs c h

namespace SpellsTokens

/-- A word that follows at once spells itself. -/
theorem cons_word {token : Token} {tokens : List Token} {word cs : List Char}
    (htoken : token.Spells word) (h : SpellsTokens tokens cs) :
    SpellsTokens (token :: tokens) (word ++ cs) := by
  have hnone : IsSpacing [] := by simp [IsSpacing]
  exact .cons hnone htoken h

/-- Blanks in front of words. -/
theorem blank_append {tokens : List Token} {bs cs : List Char} (hbs : IsSpacing bs)
    (h : SpellsTokens tokens cs) : SpellsTokens tokens (bs ++ cs) := by
  cases h with
  | nil hcs => exact .nil (hbs.append hcs)
  | cons hblanks htoken htokens =>
      rw [← List.append_assoc]
      exact .cons (hbs.append hblanks) htoken htokens

/-- **Words one after the other.** -/
theorem append {xs ys : List Token} {cs ds : List Char} (hxs : SpellsTokens xs cs)
    (hys : SpellsTokens ys ds) : SpellsTokens (xs ++ ys) (cs ++ ds) := by
  induction hxs with
  | nil hcs => exact hys.blank_append hcs
  | cons hblanks htoken _ ih =>
      rw [List.append_assoc, List.append_assoc]
      exact .cons hblanks htoken ih

end SpellsTokens

end TagTimeline.Json
