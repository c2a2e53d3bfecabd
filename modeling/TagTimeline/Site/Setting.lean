import TagTimeline.Store.Basic

/-!
# The Site Setting

The one row of settings: finding it, making it when it is first needed, and changing it; and where
the operations on tags learn whether the site requires tags.

Making the row takes two statements, one that looks for it and one that inserts it. They are
separate operations here, because two callers may run them in turns.
-/

namespace TagTimeline

open Time

namespace Store

/-- The row of settings, if it has been made. -/
def findSettings (s : Store) : Except ServiceError (Option SiteSettings) :=
  s.select "get site settings" fun rows => rows.find? fun row => row.id == SiteSettings.siteId

/-- Inserts the row of settings. -/
def insertSettings (requiredTag : Bool) (now : Timestamp) (s : Store) : Outcome SiteSettings :=
  s.write "insert site settings"
    (Statement.insert SiteSettings.clash? (SiteSettings.first requiredTag now))

/-- **The row of settings, made if there is none.** A row that exists stays as it is. -/
def getOrCreateSettings (requiredTag : Bool) (now : Timestamp) (s : Store) :
    Outcome SiteSettings :=
  match s.findSettings with
  | .error e => (.error e, s)
  | .ok (some settings) => (.ok settings, s)
  | .ok none => s.insertSettings requiredTag now

/-- Overwrites the row of settings with an id. -/
def overwriteSettings (settings : SiteSettings) : Statement SiteSettings SiteSettings := fun rows =>
  .ok (settings, rows.map fun row => if row.id == settings.id then settings else row)

/-- **Sets whether the site requires tags**, in a new row if there is none. The clock is read twice:
for a row that is made, and after that for the change. -/
def setRequiredTag (requiredTag : Bool) (now : Timestamp) (s : Store) (later : Timestamp := now) :
    Outcome SiteSettings :=
  match s.getOrCreateSettings requiredTag now with
  | (.error e, s) => (.error e, s)
  | (.ok settings, s) =>
      s.write "update site settings"
        (overwriteSettings { settings with requiredTag := requiredTag, updatedAt := some later })

end Store

/-- **Where the site's setting is read.** -/
inductive SettingSource where
  /-- A setting that never changes. -/
  | fixed (tagRequired : Bool)
  /-- The setting in the store. -/
  | stored
  /-- A source that cannot be read. -/
  | failing (error : ServiceError)
  deriving DecidableEq, Repr

namespace SettingSource

/-- Whether the site requires tags. A store without settings does not, and none are made. -/
def tagRequired (source : SettingSource) (s : Store) : Except ServiceError Bool :=
  match source with
  | fixed tagRequired => .ok tagRequired
  | stored => (s.findSettings).map fun row => row.any SiteSettings.requiredTag
  | failing error => .error error

/-- **The setting as far as it can be read**: off if it cannot. -/
def effective (source : SettingSource) (s : Store) : Bool :=
  match source.tagRequired s with
  | .ok tagRequired => tagRequired
  | .error _ => false

end SettingSource

end TagTimeline
