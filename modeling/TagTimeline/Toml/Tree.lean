import TagTimeline.Config.Value
import TagTimeline.Toml.Moment

/-!
# TOML Tables

How the statements of a TOML text build its tables. A header opens a table, which no other header
may open again; the tables on the way to it come into being by themselves and may be opened later,
which makes them the last of their table. A doubled bracket opens a new table at the end of an array
of tables. A dotted key makes the tables on its way, which no header may open, and can go only into
tables made that way. An inline table is complete as it is written. A key is given a value once.

A table whose first key is a certain reserved one stands for the date or time under that key.

## Main results

* `Tree.build?` — the table that some statements describe, if they respect each other.
-/

namespace TagTimeline.Toml

open Config

/-- How a table came into being. -/
inductive Origin where
  /-- On the way to a table that was opened. -/
  | implied
  /-- By its own header. -/
  | opened
  /-- By a dotted key. -/
  | dotted
  /-- As a value, between braces. -/
  | inline
  deriving DecidableEq, Repr

/-- What stands under a key while the text is read. -/
inductive Node where
  | leaf (value : Value)
  /-- A date or time in its normal form. -/
  | moment (text : String)
  | items (nodes : List Node)
  | table (origin : Origin) (members : List (String × Node))
  | elements (earlier : List (List (String × Node))) (last : List (String × Node))

/-- The members of a table while the text is read. -/
abbrev Members := List (String × Node)

/-- **A statement of a TOML text.** -/
inductive Statement where
  | openTable (path : List String)
  | openElement (path : List String)
  | assign (path : List String) (key : String) (value : Node)

namespace Tree

/-- The members with a key set. -/
def setMember (key : String) (node : Node) : Members → Members
  | [] => [(key, node)]
  | (k, n) :: rest => if k = key then (k, node) :: rest else (k, n) :: setMember key node rest

/-- Gives a key a value, through the tables of a dotted key. -/
def assign? : List String → String → Node → Members → Option Members
  | [], key, value, members =>
      if (members.lookup key).isSome then none else some (members ++ [(key, value)])
  | p :: path, key, value, members =>
      match members.lookup p with
      | none => (assign? path key value []).map fun sub => setMember p (.table .dotted sub) members
      | some (.table origin sub) =>
          if origin = .opened ∨ origin = .inline ∨ (path.isEmpty ∧ origin ≠ .dotted) then none
          else (assign? path key value sub).map fun sub => setMember p (.table origin sub) members
      | some (.elements earlier last) =>
          if path.isEmpty then none
          else (assign? path key value last).map fun last =>
            setMember p (.elements earlier last) members
      | some _ => none

/-- Changes the members of the table at the end of a path. Tables on the way come into being. -/
def within? (change : Members → Option Members) : List String → Members → Option Members
  | [], members => change members
  | p :: path, members =>
      match members.lookup p with
      | none => (within? change path []).map fun sub => setMember p (.table .implied sub) members
      | some (.table origin sub) =>
          if origin = .inline then none
          else (within? change path sub).map fun sub => setMember p (.table origin sub) members
      | some (.elements earlier last) =>
          (within? change path last).map fun last => setMember p (.elements earlier last) members
      | some _ => none

/-- Opens the table with a key, which becomes the last one. -/
def openTable? (key : String) (members : Members) : Option Members :=
  match members.lookup key with
  | none => some (members ++ [(key, .table .opened [])])
  | some (.table .implied sub) =>
      some ((members.filter fun m => m.1 != key) ++ [(key, .table .opened sub)])
  | some _ => none

/-- Opens a new element of the array of tables with a key. -/
def openElement? (key : String) (members : Members) : Option Members :=
  match members.lookup key with
  | none => some (members ++ [(key, .elements [] [])])
  | some (.elements earlier last) =>
      some (setMember key (.elements (earlier ++ [last]) []) members)
  | some _ => none

/-- All parts of a path but the last, and the last. -/
def unsnoc? : List String → Option (List String × String)
  | [] => none
  | [key] => some ([], key)
  | p :: path => (unsnoc? path).map fun (init, last) => (p :: init, last)

/-- Where a text stands: its tables, and the path of the one that is open. -/
abbrev State := Members × List String

/-- **One statement.** -/
def step? (state : State) : Statement → Option State
  | .openTable path =>
      (unsnoc? path).bind fun (outer, key) =>
        (within? (openTable? key) outer state.1).map (·, path)
  | .openElement path =>
      (unsnoc? path).bind fun (outer, key) =>
        (within? (openElement? key) outer state.1).map (·, path)
  | .assign path key value =>
      (within? (assign? path key value) state.2 state.1).map (·, state.2)

/-- The reserved key of dates and times. -/
def momentKey : String := "$__toml_private_datetime"

mutual

/-- What stands under a key as a value. -/
def toValue? : Node → Option Value
  | .leaf value => some value
  | .moment text => some (.text text)
  | .items nodes => (toItems? nodes).map .list
  | .table _ members => toTable? members
  | .elements earlier last => do
      let items ← toElements? earlier
      let item ← toTable? last
      return .list (items ++ [item])

/-- A table as a value: a date or time if the reserved key comes first. -/
def toTable? : List (String × Node) → Option Value
  | [] => some .emptyTable
  | (key, node) :: rest =>
      if key = momentKey then
        match node with
        | .leaf (.text text) => (Moment.read? Moment.quoted text.toList).map .text
        | _ => none
      else do
        let value ← toValue? node
        let members ← toMembers? rest
        let name := Text.lowerAscii key
        return .table (if (members.lookup name).isSome then members else (name, value) :: members)

/-- Members as members of a table; of two names that differ in case only the later stays. -/
def toMembers? : List (String × Node) → Option (List (String × Value))
  | [] => some []
  | (key, node) :: rest => do
      let value ← toValue? node
      let members ← toMembers? rest
      let name := Text.lowerAscii key
      return if (members.lookup name).isSome then members else (name, value) :: members

/-- Items of an array as values. -/
def toItems? : List Node → Option (List Value)
  | [] => some []
  | node :: rest => do
      let item ← toValue? node
      let items ← toItems? rest
      return item :: items

/-- Elements of an array of tables as values. -/
def toElements? : List (List (String × Node)) → Option (List Value)
  | [] => some []
  | members :: rest => do
      let item ← toTable? members
      let items ← toElements? rest
      return item :: items

end

/-- **The table that some statements describe.** A text that stands for a date or time is none. -/
def build? (statements : List Statement) : Option (List (String × Value)) := do
  let (members, _) ← statements.foldlM step? ([], [])
  match ← toTable? members with
  | .table members => some members
  | _ => none

/-- The inline table that some assignments describe. -/
def inline? (assignments : List (List String × String × Node)) : Option Node :=
  (assignments.foldlM (fun members (path, key, value) => assign? path key value members) []).map
    fun members => .table .inline members

end Tree

end TagTimeline.Toml
