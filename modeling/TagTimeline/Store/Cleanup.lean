import TagTimeline.Store.Basic

/-!
# Emptying the Store

Erases all rows of all tables, activities first, then revisions, tags and settings. It stops at the
first table that does not exist; the tables before it stay empty.
-/

namespace TagTimeline.Store

/-- What a failing cleanup was part of. -/
def cleanupContext : String := "cleanup"

/-- Erases all rows of one table. -/
def clearTable (s : Store) : TableName → Outcome Unit
  | .tag => s.write cleanupContext (Statement.clear : Statement Tag Unit)
  | .revision => s.write cleanupContext (Statement.clear : Statement Revision Unit)
  | .activity => s.write cleanupContext (Statement.clear : Statement Activity Unit)
  | .siteSettings => s.write cleanupContext (Statement.clear : Statement SiteSettings Unit)

/-- Erases all rows of some tables, one after the other, until one does not exist. -/
def clearTables : List TableName → Store → Outcome Unit
  | [], s => (.ok (), s)
  | table :: more, s =>
      match s.clearTable table with
      | (.ok (), s) => clearTables more s
      | failure => failure

/-- **Erases all rows of all tables.** -/
def cleanup (s : Store) : Outcome Unit :=
  clearTables [.activity, .revision, .tag, .siteSettings] s

end TagTimeline.Store
