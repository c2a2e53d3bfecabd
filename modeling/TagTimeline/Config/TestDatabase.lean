import TagTimeline.Config.Environment

/-!
# The Test Database

Where tests find a database server: from environment variables of exactly these names, each with a
default. A port that is no number of 16 bits counts as not given.

## Main results

* `TestDatabase.url` — the address of the database.
-/

namespace TagTimeline

/-- **A database for tests.** -/
structure TestDatabase where
  host : String
  port : UInt16
  username : String
  password : String
  database : String
  deriving DecidableEq, Repr

namespace TestDatabase

/-- The port, unless another is given. -/
def defaultPort : UInt16 := 5433

/-- The name of user and database, and the password, unless others are given. -/
def defaultName : String := "qanda_test"

/-- A port in decimal. -/
def port? (text : String) : Option UInt16 :=
  ((Text.readUnsigned? text.toList).filter (· < Nat.pow 2 16)).map UInt16.ofNat

/-- **The database that some environment variables describe.** -/
def ofEnvironment (env : Environment) : TestDatabase where
  host := (env.get? "TEST_DB_HOST").getD "localhost"
  port := ((env.get? "TEST_DB_PORT").bind port?).getD defaultPort
  username := (env.get? "TEST_DB_USER").getD defaultName
  password := (env.get? "TEST_DB_PASSWORD").getD defaultName
  database := (env.get? "TEST_DB_NAME").getD defaultName

/-- **The address of the database.** Nothing in it is escaped. -/
def url (database : TestDatabase) : String :=
  "postgres://" ++ database.username ++ ":" ++ database.password ++ "@" ++ database.host ++ ":" ++
    String.ofList (Text.natDigits database.port.toNat) ++ "/" ++ database.database

end TestDatabase

end TagTimeline
