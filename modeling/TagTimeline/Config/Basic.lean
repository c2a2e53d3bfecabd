import TagTimeline.Config.Value

/-!
# The Configuration

The settings that the program runs with, taken from a table of values. The settings stand in two
sections, `database` and `site`; a section is a table, or a list of its settings in order. The
address of the database has to be given, and so has its section; everything else has a default.

A value that cannot be converted is reported before anything that is missing, and of several the
first in the order of declaration.

## Main results

* `Config.ofValue` — the configuration that a table describes.
-/

namespace TagTimeline

open Config

/-- How the database is reached. -/
structure DatabaseConfig where
  url : String
  maxConnections : UInt32
  minConnections : UInt32
  deriving DecidableEq, Repr

/-- **The configuration of the program.** -/
structure Config where
  database : DatabaseConfig
  /-- Whether every question has to carry a tag, until the site's setting is made. -/
  requiredTag : Bool
  deriving DecidableEq, Repr

/-- Why there is no configuration. -/
inductive ConfigError where
  /-- A setting is missing, or a section is neither a table nor a list. -/
  | missing
  /-- The value with a key cannot be converted. -/
  | unconvertible (key : String)
  /-- A file breaks the rules of its format. -/
  | malformedFile
  /-- The file asked for does not exist. -/
  | noFile
  /-- An index leads to no position of a list, which stops the program. -/
  | noPosition
  deriving DecidableEq, Repr

namespace Config

/-- The greatest number of connections, unless it is given. -/
def defaultMaxConnections : UInt32 := 100

/-- The least number of connections, unless it is given. -/
def defaultMinConnections : UInt32 := 5

/-- The value with a name in a table. -/
def member? (root : Value) (name : String) : Option Value := root.members.lookup name

/-- The settings of the database, in their order. -/
def databaseFields : List String := ["url", "max_connections", "min_connections"]

/-- The settings of the site, in their order. -/
def siteFields : List String := ["required_tag"]

/-- The key of a setting in a table. -/
def memberKey (group field : String) : String := group ++ "." ++ field

/-- The key of a setting in a list. -/
def itemKey (group : String) (index : Nat) : String :=
  group ++ "[" ++ String.ofList (Text.natDigits index) ++ "]"

/-- The place of a setting in a section: its key, and its value if it is given. -/
def setting? (group : Option Value) (name : String) (fields : List String) (field : String) :
    Option (String × Value) :=
  match group with
  | some (.table members) => (members.lookup field).map (memberKey name field, ·)
  | some (.list items) =>
      let index := fields.idxOf field
      items[index]?.map (itemKey name index, ·)
  | _ => none

/-- A setting converted, if it is given. -/
def convert {α : Type} (conversion : Value → Option α) :
    Option (String × Value) → Except ConfigError (Option α)
  | none => .ok none
  | some (key, value) =>
      match conversion value with
      | some a => .ok (some a)
      | none => .error (.unconvertible key)

/-- Whether a value can be a section. -/
def isGroup : Value → Bool
  | .table _ => true
  | .list _ => true
  | _ => false

/-- **The configuration that a table describes.** -/
def ofValue (root : Value) : Except ConfigError Config := do
  let database := member? root "database"
  let site := member? root "site"
  let url ← convert Value.text? (setting? database "database" databaseFields "url")
  let most ← convert Value.count? (setting? database "database" databaseFields "max_connections")
  let least ← convert Value.count? (setting? database "database" databaseFields "min_connections")
  let requiredTag ← convert Value.flag? (setting? site "site" siteFields "required_tag")
  match url with
  | some url =>
      if site.all isGroup then
        .ok ⟨⟨url, most.getD defaultMaxConnections, least.getD defaultMinConnections⟩,
          requiredTag.getD false⟩
      else .error .missing
  | none => .error .missing

end Config

end TagTimeline
