import TagTimeline.Store.Basic

/-!
# Migrations

How the tables come into being. There is one migration for each table, and they are applied in the
order tag, revision, activity, site settings. Applying one creates its table, unless that exists,
and then its indexes, and is recorded at the end; reverting one drops its table, indexes included,
and erases the record. The statements of a migration are not undone when a later one fails.

## Main results

* `Store.migrate` — applies everything that is pending.
* `Store.migrateUp` and `Store.migrateDown` — apply and revert a number of migrations.
-/

namespace TagTimeline

/-- **A statement on the schema.** -/
inductive SchemaStatement where
  /-- Creates a table unless it exists. -/
  | createTable (table : TableName)
  /-- Creates an index, of which there is none of that name. -/
  | createIndex (table : TableName) (index : String)
  | dropTable (table : TableName)
  deriving DecidableEq, Repr

namespace TableName

/-- The statements that apply a migration. -/
def upStatements (table : TableName) : List SchemaStatement :=
  .createTable table :: table.indexes.map (.createIndex table)

/-- The statements that revert a migration. -/
def downStatements (table : TableName) : List SchemaStatement := [.dropTable table]

end TableName

namespace Store

/-- Whether a table exists. -/
def hasTable (s : Store) : TableName → Bool
  | .tag => s.tags.isSome
  | .revision => s.revisions.isSome
  | .activity => s.activities.isSome
  | .siteSettings => s.settings.isSome

/-- The indexes of a table; none if it does not exist. -/
def indexesOf (s : Store) : TableName → List String
  | .tag => (s.tags.map Table.indexes).getD []
  | .revision => (s.revisions.map Table.indexes).getD []
  | .activity => (s.activities.map Table.indexes).getD []
  | .siteSettings => (s.settings.map Table.indexes).getD []

/-- The store with an empty table made or remade. -/
def withEmptyTable (s : Store) : TableName → Store
  | .tag => { s with tags := some .empty }
  | .revision => { s with revisions := some .empty }
  | .activity => { s with activities := some .empty }
  | .siteSettings => { s with settings := some .empty }

/-- The store without a table. -/
def withoutTable (s : Store) : TableName → Store
  | .tag => { s with tags := none }
  | .revision => { s with revisions := none }
  | .activity => { s with activities := none }
  | .siteSettings => { s with settings := none }

/-- A table with one index more. -/
def addIndex {Row : Type} (index : String) (table : Table Row) : Table Row :=
  { table with indexes := table.indexes ++ [index] }

/-- The store with one index more on a table. -/
def withIndex (s : Store) (index : String) : TableName → Store
  | .tag => { s with tags := s.tags.map (addIndex index) }
  | .revision => { s with revisions := s.revisions.map (addIndex index) }
  | .activity => { s with activities := s.activities.map (addIndex index) }
  | .siteSettings => { s with settings := s.settings.map (addIndex index) }

/-- **Runs one statement on the schema.** Index names are the same for the whole store. -/
def runSchema (s : Store) : SchemaStatement → Except StatementFailure Store
  | .createTable table => .ok (if s.hasTable table then s else s.withEmptyTable table)
  | .createIndex table index =>
      if TableName.all.any fun t => (s.indexesOf t).contains index then
        .error (.existingIndex index)
      else if s.hasTable table then .ok (s.withIndex index table)
      else .error (.missingTable table.name)
  | .dropTable table =>
      if s.hasTable table then .ok (s.withoutTable table) else .error (.missingTable table.name)

/-- Runs statements on the schema until one fails; what ran before stays done. -/
def runSchemaAll (context : String) : List SchemaStatement → Store → Outcome Unit
  | [], s => (.ok (), s)
  | statement :: more, s =>
      match s.runSchema statement with
      | .error failure => (.error (failed context failure), s)
      | .ok s => runSchemaAll context more s

/-- What a failing migration was part of. -/
def migrateContext : String := "migrate"

/-- Applies one migration and records it. -/
def applyMigration (table : TableName) (s : Store) : Outcome Unit :=
  match runSchemaAll migrateContext table.upStatements s with
  | (.ok (), s) => (.ok (), { s with applied := s.applied ++ [table] })
  | failure => failure

/-- Reverts one migration and erases its record. -/
def revertMigration (table : TableName) (s : Store) : Outcome Unit :=
  match runSchemaAll migrateContext table.downStatements s with
  | (.ok (), s) => (.ok (), { s with applied := s.applied.filter (· ≠ table) })
  | failure => failure

/-- Runs a step for each of some tables until one fails. -/
def runEach (step : TableName → Store → Outcome Unit) : List TableName → Store → Outcome Unit
  | [], s => (.ok (), s)
  | table :: more, s =>
      match step table s with
      | (.ok (), s) => runEach step more s
      | failure => failure

/-- The migrations that have not been applied, in their order. -/
def pending (s : Store) : List TableName := TableName.all.filter fun t => !s.applied.contains t

/-- The migrations that have been applied, the last in the order of migrations first. -/
def revertible (s : Store) : List TableName :=
  (TableName.all.filter fun t => s.applied.contains t).reverse

/-- The first so many of some tables, or all of them. -/
def firstOf (count : Option Nat) (tables : List TableName) : List TableName :=
  match count with
  | none => tables
  | some n => tables.take n

/-- **Applies pending migrations**, as many as asked for or all of them. -/
def migrateUp (count : Option Nat) (s : Store) : Outcome Unit :=
  runEach applyMigration (firstOf count s.pending) s

/-- **Reverts applied migrations**, the last first, as many as asked for or all of them. -/
def migrateDown (count : Option Nat) (s : Store) : Outcome Unit :=
  runEach revertMigration (firstOf count s.revertible) s

/-- **Applies everything that is pending.** -/
def migrate (s : Store) : Outcome Unit := migrateUp none s

/-- A store in which every migration has been applied and nothing is stored. -/
def fresh : Store := (migrate empty).2

end Store

end TagTimeline
