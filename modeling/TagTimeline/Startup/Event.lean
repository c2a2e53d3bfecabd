import TagTimeline.Startup.LogFilter

/-!
# Log Events

What the program reports while it prepares the store, one event after the other.

## Main results

* `Event.line` — the line that is written for an event.
-/

namespace TagTimeline

/-- **An event of a run.** -/
inductive Event where
  /-- The environment file could not be read to its end. -/
  | environmentFileUnread
  | starting
  | connected (maxConnections : UInt32)
  | migrating
  | migrated
  /-- The site's setting is there, whoever made it. -/
  | settingsReady (requiredTag : Bool)
  /-- So many tags are recommended and reserved. -/
  | tagsReady (recommended reserved : Nat)
  deriving DecidableEq, Repr

namespace Event

/-- How important an event is. -/
def level : Event → LogLevel
  | environmentFileUnread => .warn
  | _ => .info

/-- A field of an event behind its message. -/
def field (name : String) (value : List Char) : String := " " ++ name ++ "=" ++ String.ofList value

/-- A count in decimal. -/
def countText (n : Nat) : List Char := Text.natDigits n

/-- A flag as a word. -/
def flagText (b : Bool) : List Char := (if b then "true" else "false").toList

/-- The wording of an event. -/
def message : Event → String
  | environmentFileUnread => "Failed to read .env file"
  | starting => "Starting qanda..."
  | connected most => "Connected to database" ++ field "max_connections" (countText most.toNat)
  | migrating => "Running database migrations..."
  | migrated => "Migrations completed"
  | settingsReady requiredTag =>
      "Site settings ready" ++ field "required_tag" (flagText requiredTag)
  | tagsReady recommended reserved =>
      "Tag storage ready" ++ field "recommended" (countText recommended) ++
        field "reserved" (countText reserved)

/-- The names of an event's fields, its message among them. -/
def fields : Event → List String
  | environmentFileUnread => ["message", "error"]
  | connected _ => ["message", "max_connections"]
  | settingsReady _ => ["message", "required_tag"]
  | tagsReady _ _ => ["message", "recommended", "reserved"]
  | _ => ["message"]

/-- **The line that is written for an event.** -/
def line (event : Event) : String :=
  event.level.name ++ " " ++ LogFilter.ownTarget ++ ": " ++ event.message

end Event

end TagTimeline
