import TagTimeline.Proofs.Json.Lexing

/-!
# Reading What a Text Spells

The machine that reads documents reads exactly the documents that a text spells, so a text spells
one document at most. A document is read whatever is open around it; the other way round, tokens
that lead the machine to its end are those of a document first, whatever it waits for them with.

## Main results

* `Document.readAll_tokens` — the words of a document are read as the document.
* `Document.tokens_of_ofTokens?` — tokens that are read as a document are its words.
* `Document.read?_eq_some_iff` — a text is read as the document that it spells.
-/

namespace TagTimeline.Json

namespace Document

open ReadState

/-! ### Completeness -/

/-- The machine reads token by token. -/
theorem readAll_cons (start : ReadState) (token : Token) (tokens : List Token) :
    readAll? start (token :: tokens) = (step? start token).bind fun s => readAll? s tokens := by
  simp [readAll?, bind]

/-- The first item of an array is read as any value. -/
theorem readAll_firstItem (d : Document) (frames : List Frame) (rest : List Token) :
    readAll? ⟨frames, .firstItem⟩ (d.tokens ++ rest) =
      readAll? ⟨frames, .value⟩ (d.tokens ++ rest) := by
  cases d with
  | array items => cases items <;> rfl
  | object members => cases members <;> rfl
  | null | bool | number | string => rfl

mutual

/-- **The words of a document are read as the document**, whatever is open around it. -/
theorem readAll_tokens (d : Document) (frames : List Frame) (rest : List Token) :
    readAll? ⟨frames, .value⟩ (d.tokens ++ rest) =
      (place? frames d).bind fun s => readAll? s rest := by
  match d with
  | .null | .bool b | .number n | .string s => rw [tokens, List.singleton_append, readAll_cons]; rfl
  | .array [] => rw [tokens]; rfl
  | .array (d :: ds) =>
      have hopen : readAll? ⟨frames, .value⟩ ((array (d :: ds)).tokens ++ rest) =
          readAll? ⟨.items [] :: frames, .firstItem⟩ (d.tokens ++ (tokensOfItems ds ++ rest)) := by
        rw [tokens, List.cons_append, List.append_assoc]
        rfl
      rw [hopen, readAll_firstItem, readAll_tokens d]
      exact readAll_tokensOfItems ds [d] frames rest
  | .object [] => rw [tokens]; rfl
  | .object ((name, d) :: ds) =>
      have hopen : readAll? ⟨frames, .value⟩ ((object ((name, d) :: ds)).tokens ++ rest) =
          readAll? ⟨.member [] name :: frames, .value⟩
            (d.tokens ++ (tokensOfMembers ds ++ rest)) := by
        rw [tokens]
        simp only [List.cons_append, List.append_assoc]
        rfl
      rw [hopen, readAll_tokens d]
      exact readAll_tokensOfMembers ds [(name, d)] frames rest

/-- The words of the items that are left complete an array. -/
theorem readAll_tokensOfItems (ds done : List Document) (frames : List Frame) (rest : List Token) :
    readAll? ⟨.items done :: frames, .separator⟩ (tokensOfItems ds ++ rest) =
      (place? frames (.array (done.reverse ++ ds))).bind fun s => readAll? s rest := by
  match ds with
  | [] => rw [tokensOfItems, List.append_nil]; rfl
  | d :: ds =>
      have hcomma : readAll? ⟨.items done :: frames, .separator⟩ (tokensOfItems (d :: ds) ++ rest) =
          readAll? ⟨.items done :: frames, .value⟩ (d.tokens ++ (tokensOfItems ds ++ rest)) := by
        rw [tokensOfItems, List.cons_append, List.append_assoc]
        rfl
      have hitems := readAll_tokensOfItems ds (d :: done) frames rest
      rw [List.reverse_cons, List.append_assoc, List.singleton_append] at hitems
      rw [hcomma, readAll_tokens d]
      exact hitems

/-- The words of the members that are left complete an object. -/
theorem readAll_tokensOfMembers (ds done : List (Spelling × Document)) (frames : List Frame)
    (rest : List Token) :
    readAll? ⟨.members done :: frames, .separator⟩ (tokensOfMembers ds ++ rest) =
      (place? frames (.object (done.reverse ++ ds))).bind fun s => readAll? s rest := by
  match ds with
  | [] => rw [tokensOfMembers, List.append_nil]; rfl
  | (name, d) :: ds =>
      have hcomma : readAll? ⟨.members done :: frames, .separator⟩
            (tokensOfMembers ((name, d) :: ds) ++ rest) =
          readAll? ⟨.member done name :: frames, .value⟩
            (d.tokens ++ (tokensOfMembers ds ++ rest)) := by
        rw [tokensOfMembers]
        simp only [List.cons_append, List.append_assoc]
        rfl
      have hmembers := readAll_tokensOfMembers ds ((name, d) :: done) frames rest
      rw [List.reverse_cons, List.append_assoc, List.singleton_append] at hmembers
      rw [hcomma, readAll_tokens d]
      exact hmembers

end

/-- The words of a document are the tokens of the document. -/
theorem ofTokens?_tokens (d : Document) : ofTokens? d.tokens = some d := by
  have hread := readAll_tokens d [] []
  rw [List.append_nil] at hread
  rw [ofTokens?, start, hread]
  rfl

/-! ### Soundness -/

/-- **That tokens lead the machine to its end**, where it has read a document. -/
def Ends (state : ReadState) (tokens : List Token) (document : Document) : Prop :=
  (readAll? state tokens).bind finish? = some document

/-- Tokens that lead to the end have a first one, unless the end is reached. -/
theorem Ends.step {frames : List Frame} {expected : Expectation} {tokens : List Token}
    {document : Document} (h : Ends ⟨frames, expected⟩ tokens document)
    (hexpected : ∀ d, expected ≠ .nothing d) :
    ∃ token rest s, tokens = token :: rest ∧ step? ⟨frames, expected⟩ token = some s ∧
      Ends s rest document := by
  cases tokens with
  | nil =>
      cases expected with
      | nothing d => exact absurd rfl (hexpected d)
      | value | firstItem | firstName | name | colon | separator => cases h
  | cons token rest =>
      rw [Ends, readAll_cons] at h
      cases hstep : step? ⟨frames, expected⟩ token with
      | none =>
          rw [hstep] at h
          cases h
      | some s =>
          rw [hstep] at h
          exact ⟨token, rest, s, rfl, hstep, h⟩

/-- A first item leads to the end as any value does. -/
theorem Ends.of_firstItem {frames : List Frame} {token : Token} {rest : List Token}
    {document : Document} (h : Ends ⟨frames, .firstItem⟩ (token :: rest) document)
    (hclose : token ≠ .closeBracket) : Ends ⟨frames, .value⟩ (token :: rest) document := by
  cases token with
  | closeBracket => exact absurd rfl hclose
  | _ => exact h

mutual

/-- **Tokens that lead to the end from where a value is expected** are the words of a document, and
lead there from where it has its place. -/
theorem Ends.value {frames : List Frame} {tokens : List Token} {document : Document}
    (h : Ends ⟨frames, .value⟩ tokens document) :
    ∃ d rest s, tokens = d.tokens ++ rest ∧ place? frames d = some s ∧ Ends s rest document := by
  obtain ⟨token, rest, s, htokens, hstep, hrest⟩ := h.step (by simp)
  cases token with
  | null => exact ⟨.null, rest, s, htokens, hstep, hrest⟩
  | bool b => exact ⟨.bool b, rest, s, htokens, hstep, hrest⟩
  | number n => exact ⟨.number n, rest, s, htokens, hstep, hrest⟩
  | string name => exact ⟨.string name, rest, s, htokens, hstep, hrest⟩
  | openBracket =>
      cases hstep
      obtain ⟨token, rest', s, hrest', hstep, hend⟩ := hrest.step (by simp)
      by_cases hclose : token = .closeBracket
      · subst hclose
        exact ⟨.array [], rest', s, by rw [htokens, hrest', Document.tokens]; rfl, hstep, hend⟩
      · rw [hrest'] at hrest
        obtain ⟨d, rest₁, s₁, htokens₁, hplace, hend₁⟩ := (hrest.of_firstItem hclose).value
        cases hplace
        obtain ⟨ds, rest₂, s₂, htokens₂, hplace₂, hend₂⟩ := hend₁.items
        refine ⟨.array (d :: ds), rest₂, s₂, ?_, hplace₂, hend₂⟩
        rw [htokens, hrest', htokens₁, htokens₂, Document.tokens, List.cons_append,
          List.append_assoc]
  | openBrace =>
      cases hstep
      obtain ⟨token, rest', s, hrest', hstep, hend⟩ := hrest.step (by simp)
      cases token with
      | closeBrace =>
          exact ⟨.object [], rest', s, by rw [htokens, hrest', Document.tokens]; rfl, hstep, hend⟩
      | string name =>
          cases hstep
          obtain ⟨d, rest₁, htokens₁, hend₁⟩ := hend.member
          obtain ⟨ds, rest₂, s₂, htokens₂, hplace₂, hend₂⟩ := hend₁.members
          refine ⟨.object ((name, d) :: ds), rest₂, s₂, ?_, hplace₂, hend₂⟩
          rw [htokens, hrest', htokens₁, htokens₂, Document.tokens]
          simp only [List.cons_append, List.append_assoc]
      | _ => cases hstep
  | _ => cases hstep
termination_by tokens.length
decreasing_by all_goals grind

/-- Tokens that lead to the end from behind the name of a member. -/
theorem Ends.member {done : List (Spelling × Document)} {frames : List Frame} {name : Spelling}
    {tokens : List Token} {document : Document}
    (h : Ends ⟨.members done :: frames, .colon name⟩ tokens document) :
    ∃ d rest, tokens = .colon :: (d.tokens ++ rest) ∧
      Ends ⟨.members ((name, d) :: done) :: frames, .separator⟩ rest document := by
  obtain ⟨token, rest, s, htokens, hstep, hrest⟩ := h.step (by simp)
  cases token with
  | colon =>
      cases hstep
      obtain ⟨d, rest₁, s₁, htokens₁, hplace, hend⟩ := hrest.value
      cases hplace
      exact ⟨d, rest₁, by rw [htokens, htokens₁], hend⟩
  | _ => cases hstep
termination_by tokens.length
decreasing_by all_goals grind

/-- Tokens that lead to the end from behind an item. -/
theorem Ends.items {done : List Document} {frames : List Frame} {tokens : List Token}
    {document : Document} (h : Ends ⟨.items done :: frames, .separator⟩ tokens document) :
    ∃ ds rest s, tokens = tokensOfItems ds ++ rest ∧
      place? frames (.array (done.reverse ++ ds)) = some s ∧ Ends s rest document := by
  obtain ⟨token, rest, s, htokens, hstep, hrest⟩ := h.step (by simp)
  cases token with
  | comma =>
      cases hstep
      obtain ⟨d, rest₁, s₁, htokens₁, hplace, hend⟩ := hrest.value
      cases hplace
      obtain ⟨ds, rest₂, s₂, htokens₂, hplace₂, hend₂⟩ := hend.items
      refine ⟨d :: ds, rest₂, s₂, ?_, ?_, hend₂⟩
      · rw [htokens, htokens₁, htokens₂, tokensOfItems, List.cons_append, List.append_assoc]
      · simpa using hplace₂
  | closeBracket =>
      refine ⟨[], rest, s, htokens, ?_, hrest⟩
      rw [List.append_nil]
      exact hstep
  | _ => cases hstep
termination_by tokens.length
decreasing_by all_goals grind

/-- Tokens that lead to the end from behind a member. -/
theorem Ends.members {done : List (Spelling × Document)} {frames : List Frame}
    {tokens : List Token} {document : Document}
    (h : Ends ⟨.members done :: frames, .separator⟩ tokens document) :
    ∃ ds rest s, tokens = tokensOfMembers ds ++ rest ∧
      place? frames (.object (done.reverse ++ ds)) = some s ∧ Ends s rest document := by
  obtain ⟨token, rest, s, htokens, hstep, hrest⟩ := h.step (by simp)
  cases token with
  | comma =>
      cases hstep
      obtain ⟨token, rest', s, hrest', hstep, hend⟩ := hrest.step (by simp)
      cases token with
      | string name =>
          cases hstep
          obtain ⟨d, rest₁, htokens₁, hend₁⟩ := hend.member
          obtain ⟨ds, rest₂, s₂, htokens₂, hplace₂, hend₂⟩ := hend₁.members
          refine ⟨(name, d) :: ds, rest₂, s₂, ?_, ?_, hend₂⟩
          · rw [htokens, hrest', htokens₁, htokens₂, tokensOfMembers]
            simp only [List.cons_append, List.append_assoc]
          · simpa using hplace₂
      | _ => cases hstep
  | closeBrace =>
      refine ⟨[], rest, s, htokens, ?_, hrest⟩
      rw [List.append_nil]
      exact hstep
  | _ => cases hstep
termination_by tokens.length
decreasing_by all_goals grind

end

/-- **Tokens that are read as a document** are its words. -/
theorem tokens_of_ofTokens? {tokens : List Token} {document : Document}
    (h : ofTokens? tokens = some document) : tokens = document.tokens := by
  obtain ⟨d, rest, s, rfl, hplace, hend⟩ := Ends.value h
  cases hplace
  cases rest with
  | nil =>
      cases hend
      exact List.append_nil _
  | cons token rest => cases hend

/-! ### Texts -/

/-- Words in front of others end no number of theirs. -/
theorem isChain_cons {token : Token} {tokens : List Token} (hnumber : ∀ n, token ≠ .number n)
    (h : tokens.IsChain Token.MayFollow) : (token :: tokens).IsChain Token.MayFollow :=
  List.isChain_cons.mpr ⟨fun _ _ ⟨n, hn⟩ => absurd hn (hnumber n), h⟩

/-- Words behind others that end a number. -/
theorem isChain_append {xs ys : List Token} (hxs : xs.IsChain Token.MayFollow)
    (hys : ys.IsChain Token.MayFollow) (hends : ∀ token ∈ ys.head?, token.EndsNumber) :
    (xs ++ ys).IsChain Token.MayFollow :=
  hxs.append hys fun _ _ next hnext _ => hends next hnext

/-- What stands behind an item ends a number. -/
theorem endsNumber_head?_tokensOfItems (ds : List Document) :
    ∀ token ∈ (tokensOfItems ds).head?, token.EndsNumber := by
  cases ds with
  | nil =>
      rintro token ⟨⟩
      exact .inr (.inl rfl)
  | cons d ds =>
      rintro token ⟨⟩
      exact .inl rfl

/-- What stands behind a member ends a number. -/
theorem endsNumber_head?_tokensOfMembers (ds : List (Spelling × Document)) :
    ∀ token ∈ (tokensOfMembers ds).head?, token.EndsNumber := by
  cases ds with
  | nil =>
      rintro token ⟨⟩
      exact .inr (.inr rfl)
  | cons d ds =>
      rintro token ⟨⟩
      exact .inl rfl

mutual

/-- **In a document every number ends** where it has to. -/
theorem isChain_tokens (d : Document) : d.tokens.IsChain Token.MayFollow := by
  match d with
  | .null | .bool b | .number n | .string s => exact .singleton _
  | .array [] => exact isChain_cons (by simp) (.singleton _)
  | .array (d :: ds) =>
      exact isChain_cons (by simp) (isChain_append (isChain_tokens d) (isChain_tokensOfItems ds)
        (endsNumber_head?_tokensOfItems ds))
  | .object [] => exact isChain_cons (by simp) (.singleton _)
  | .object ((name, d) :: ds) =>
      exact isChain_cons (by simp) (isChain_cons (by simp) (isChain_cons (by simp)
        (isChain_append (isChain_tokens d) (isChain_tokensOfMembers ds)
          (endsNumber_head?_tokensOfMembers ds))))

/-- Among the items of an array every number ends where it has to. -/
theorem isChain_tokensOfItems (ds : List Document) :
    (tokensOfItems ds).IsChain Token.MayFollow := by
  match ds with
  | [] => exact .singleton _
  | d :: ds =>
      exact isChain_cons (by simp) (isChain_append (isChain_tokens d) (isChain_tokensOfItems ds)
        (endsNumber_head?_tokensOfItems ds))

/-- Among the members of an object every number ends where it has to. -/
theorem isChain_tokensOfMembers (ds : List (Spelling × Document)) :
    (tokensOfMembers ds).IsChain Token.MayFollow := by
  match ds with
  | [] => exact .singleton _
  | (name, d) :: ds =>
      exact isChain_cons (by simp) (isChain_cons (by simp) (isChain_cons (by simp)
        (isChain_append (isChain_tokens d) (isChain_tokensOfMembers ds)
          (endsNumber_head?_tokensOfMembers ds))))

end

/-- **A text is read as the document that it spells**, and no other text is read. -/
theorem read?_eq_some_iff {text : String} {d : Document} :
    read? text = some d ↔ d.IsSpelled text := by
  constructor
  · intro h
    obtain ⟨tokens, hlex, hparse⟩ := Option.bind_eq_some_iff.mp h
    have hspells := Token.spells_of_ofText? hlex
    rwa [tokens_of_ofTokens? hparse] at hspells
  · intro h
    rw [read?, Token.ofText?_of_spells h d.isChain_tokens, Option.bind_some, ofTokens?_tokens]

/-- A text spells one document at most. -/
theorem IsSpelled.unique {text : String} {d d' : Document} (h : d.IsSpelled text)
    (h' : d'.IsSpelled text) : d = d' :=
  Option.some.inj ((read?_eq_some_iff.mpr h).symm.trans (read?_eq_some_iff.mpr h'))

/-! ### More text -/

/-- An array ends with its bracket. -/
theorem getLast?_tokensOfItems (ds : List Document) :
    (tokensOfItems ds).getLast? = some .closeBracket := by
  induction ds with
  | nil => rfl
  | cons d ds ih => simp [tokensOfItems, List.getLast?_cons, List.getLast?_append, ih]

/-- An object ends with its brace. -/
theorem getLast?_tokensOfMembers (ds : List (Spelling × Document)) :
    (tokensOfMembers ds).getLast? = some .closeBrace := by
  induction ds with
  | nil => rfl
  | cons d ds ih => simp [tokensOfMembers, List.getLast?_cons, List.getLast?_append, ih]

/-- Only a number ends with a number. -/
theorem getLast?_tokens {d : Document} (h : ∀ n, d ≠ .number n) (n : Number) :
    d.tokens.getLast? ≠ some (.number n) := by
  match d with
  | .null | .bool b | .string s => simp [tokens]
  | .number n => exact absurd rfl (h n)
  | .array [] | .object [] => simp [tokens]
  | .array (d :: ds) =>
      simp [tokens, List.getLast?_cons, List.getLast?_append, getLast?_tokensOfItems]
  | .object ((name, d) :: ds) =>
      simp [tokens, List.getLast?_cons, List.getLast?_append, getLast?_tokensOfMembers]

/-- **Nothing but blanks may follow a document**, which is no number. -/
theorem read?_append_eq_none {text rest : String} {d : Document} (h : d.IsSpelled text)
    (hnumber : ∀ n, d ≠ .number n) (hrest : ¬ IsSpacing rest.toList) :
    read? (text ++ rest) = none := by
  have htext := Token.ofText?_append (Token.ofText?_of_spells h d.isChain_tokens)
    (getLast?_tokens hnumber) rest.toList
  rw [read?, String.toList_append, htext]
  cases hmore : Token.ofText? rest.toList with
  | none => rfl
  | some more =>
      cases more with
      | nil =>
          cases Token.spells_of_ofText? hmore with
          | nil hspacing => exact absurd hspacing hrest
      | cons token more =>
          -- behind a whole document no token can be read
          have hread := readAll_tokens d [] (token :: more)
          rw [Option.map_some, Option.bind_some, ofTokens?, start, hread]
          rfl

end Document

end TagTimeline.Json
