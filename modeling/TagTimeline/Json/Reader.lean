import TagTimeline.Json.Token

/-!
# Reading JSON Documents

A document is read from its tokens by a machine with a stack of the arrays and objects that are
still open. It takes one token at a time and never goes back, so that deep nesting costs no more
than long text. A text is a document if its tokens are exactly one value.

## Main results

* `Document.read?` — the document that a text spells.
-/

namespace TagTimeline.Json

/-- An array or object that is still open, with what it holds so far, the last first. -/
inductive Frame where
  | items (done : List Document)
  | members (done : List (Spelling × Document))
  /-- An object that waits for the value of a name. -/
  | member (done : List (Spelling × Document)) (name : Spelling)

/-- What may come next. -/
inductive Expectation where
  | value
  /-- Behind an opening bracket: a value or the closing bracket. -/
  | firstItem
  /-- Behind an opening brace: a name or the closing brace. -/
  | firstName
  | name
  | colon (name : Spelling)
  /-- Behind a value in an array or object: a comma or its closing mark. -/
  | separator
  /-- Behind the whole document. -/
  | nothing (document : Document)

/-- Where the reading machine stands. -/
structure ReadState where
  frames : List Frame
  expected : Expectation

namespace ReadState

/-- Before the first token. -/
def start : ReadState := ⟨[], .value⟩

/-- A value is complete and takes its place in the innermost open frame. -/
def place? (frames : List Frame) (document : Document) : Option ReadState :=
  match frames with
  | [] => some ⟨[], .nothing document⟩
  | .items done :: outer => some ⟨.items (document :: done) :: outer, .separator⟩
  | .member done name :: outer => some ⟨.members ((name, document) :: done) :: outer, .separator⟩
  | .members _ :: _ => none

/-- A token where a value may stand. -/
def value? (frames : List Frame) : Token → Option ReadState
  | .null => place? frames .null
  | .bool b => place? frames (.bool b)
  | .number n => place? frames (.number n)
  | .string s => place? frames (.string s)
  | .openBracket => some ⟨.items [] :: frames, .firstItem⟩
  | .openBrace => some ⟨.members [] :: frames, .firstName⟩
  | _ => none

/-- The innermost open frame is closed by the token, if that is its closing mark. -/
def close? : List Frame → Token → Option ReadState
  | .items done :: outer, .closeBracket => place? outer (.array done.reverse)
  | .members done :: outer, .closeBrace => place? outer (.object done.reverse)
  | _, _ => none

/-- **One step of the machine.** -/
def step? (state : ReadState) (token : Token) : Option ReadState :=
  match state.expected, token with
  | .value, token => value? state.frames token
  | .firstItem, .closeBracket => close? state.frames token
  | .firstItem, token => value? state.frames token
  | .firstName, .string s => some ⟨state.frames, .colon s⟩
  | .firstName, token => close? state.frames token
  | .name, .string s => some ⟨state.frames, .colon s⟩
  | .colon name, .colon =>
      match state.frames with
      | .members done :: outer => some ⟨.member done name :: outer, .value⟩
      | _ => none
  | .separator, .comma =>
      match state.frames with
      | .items _ :: _ => some ⟨state.frames, .value⟩
      | .members _ :: _ => some ⟨state.frames, .name⟩
      | _ => none
  | .separator, token => close? state.frames token
  | _, _ => none

/-- The document, if the machine has read exactly one. -/
def finish? (state : ReadState) : Option Document :=
  match state.expected with
  | .nothing document => some document
  | _ => none

end ReadState

namespace Document

/-- Runs the machine over some tokens. -/
def readAll? (start : ReadState) (tokens : List Token) : Option ReadState :=
  tokens.foldlM ReadState.step? start

/-- The document that the tokens spell. -/
def ofTokens? (tokens : List Token) : Option Document :=
  (readAll? .start tokens).bind ReadState.finish?

/-- **The document that a text spells**, if it is strict JSON and nothing else. -/
def read? (text : String) : Option Document := (Token.ofText? text.toList).bind ofTokens?

end Document

end TagTimeline.Json
