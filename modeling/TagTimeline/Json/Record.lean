import TagTimeline.Json.Reader

/-!
# Records in JSON Documents

How values of a fixed shape are taken from a document. A record is an object with a member for each
field, or an array of the fields in the order in which they are declared. In an object the members
may come in any order, members with other names are skipped, whatever they hold, and a field named
twice makes the object no record. An array may stop early, before fields that have a default, and
holds nothing beyond the last field.

Nothing is converted: a text is a string, a flag a boolean, a whole number a number without point
and exponent, and `null` stands only for an absent optional value.

## Main results

* `Document.record?` — the fields of a record in a document.
* `Fields.required?`, `Fields.optional?`, `Fields.withDefault?` — the three kinds of field.
-/

namespace TagTimeline.Json

/-- The fields that a document gives for a record, by name. -/
structure Fields where
  /-- Whether the fields came as an array. -/
  positional : Bool
  entries : List (String × Document)
  deriving Inhabited

namespace Fields

/-- What is given for a field. -/
def find? (fields : Fields) (name : String) : Option Document := fields.entries.lookup name

/-- A field that has to be given. -/
def required? {α : Type} (fields : Fields) (name : String) (decode : Document → Option α) :
    Option α :=
  (fields.find? name).bind decode

/-- A field that may be `null`, or absent from an object. -/
def optional? {α : Type} (fields : Fields) (name : String) (decode : Document → Option α) :
    Option (Option α) :=
  match fields.find? name with
  | none => if fields.positional then none else some none
  | some .null => some none
  | some document => (decode document).map some

/-- A field that may be absent and then has a default value. -/
def withDefault? {α : Type} (fields : Fields) (name : String) (default : α)
    (decode : Document → Option α) : Option α :=
  match fields.find? name with
  | none => some default
  | some document => decode document

end Fields

namespace Document

/-- The members of an object with their names as text, if all have one. -/
def namedMembers? : List (Spelling × Document) → Option (List (String × Document))
  | [] => some []
  | (none, _) :: _ => none
  | (some name, d) :: rest => (namedMembers? rest).map ((name, d) :: ·)

/-- **The fields of a record in a document.** -/
def record? (names : List String) : Document → Option Fields
  | .array items => if items.length ≤ names.length then some ⟨true, names.zip items⟩ else none
  | .object members =>
      (namedMembers? members).bind fun members =>
        if names.all fun name => members.countP (fun m => m.1 == name) ≤ 1 then
          some ⟨false, members.filter fun m => names.contains m.1⟩
        else none
  | _ => none

/-- A text. -/
def text? : Document → Option String
  | .string s => s
  | _ => none

/-- A flag. -/
def bool? : Document → Option Bool
  | .bool b => some b
  | _ => none

/-- A whole number. -/
def int? : Document → Option Int
  | .number n => n.int?
  | _ => none

/-- A natural number of 64 bits. -/
def uint64? (d : Document) : Option UInt64 :=
  d.int?.bind fun i => if 0 ≤ i ∧ i < Int.pow 2 64 then some (UInt64.ofNat i.toNat) else none

/-- A whole number of 32 bits. -/
def int32? (d : Document) : Option Int32 :=
  d.int?.bind fun i => if -Int.pow 2 31 ≤ i ∧ i < Int.pow 2 31 then some (Int32.ofInt i) else none

/-- A list whose items all decode. -/
def list? {α : Type} (decode : Document → Option α) : Document → Option (List α)
  | .array items => items.mapM decode
  | _ => none

/-- One of some names: the name as a string, or as the only member of an object whose value is
`null`. -/
def choice? {α : Type} (ofName? : String → Option α) : Document → Option α
  | .string s => s.bind ofName?
  | .object [(name, .null)] => name.bind ofName?
  | _ => none

end Document

end TagTimeline.Json
