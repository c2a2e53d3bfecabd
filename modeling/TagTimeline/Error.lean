/-!
# Failures

The ways in which an operation of the site can fail. Each failure has a stable code for clients and
a wording for people. Failures are either the caller's (something asked for does not exist, or the
request is not acceptable) or the site's own (storage, configuration, anything internal).

## Main results

* `ServiceError.code`, `ServiceError.message` — what clients and people are told.
* `ServiceError.isServerError`, `ServiceError.isNotFound` — the two groups.
-/

namespace TagTimeline

/-- **Why an operation failed.** -/
inductive ServiceError where
  | notFound (what : String)
  | tagNotFound (tag : String)
  | revisionNotFound (revision : String)
  | badRequest (why : String)
  | validation (why : String)
  | database (why : String)
  | configuration (why : String)
  | internal (why : String)
  deriving DecidableEq, Repr

/-- Why the store refused a statement. -/
inductive StatementFailure where
  | missingTable (table : String)
  | takenKey (table column : String)
  | existingIndex (index : String)
  | readOnly
  | notADatabase
  deriving DecidableEq, Repr

namespace StatementFailure

/-- The wording of a refused statement. -/
def message : StatementFailure → String
  | missingTable table => "no such table: " ++ table
  | takenKey table column => "UNIQUE constraint failed: " ++ table ++ "." ++ column
  | existingIndex index => "index " ++ index ++ " already exists"
  | readOnly => "attempt to write a readonly database"
  | notADatabase => "file is not a database"

end StatementFailure

namespace ServiceError

/-- A failure of the store, with the operation that met it. -/
def storage (context detail : String) : ServiceError := .database (context ++ ": " ++ detail)

/-- A failure met while something was done: only the outermost account of it is told. -/
def ofContext (message : String) : Option String → ServiceError
  | some context => .internal context
  | none => .internal message

/-- A text that is no JSON document. -/
def malformedJson (detail : String) : ServiceError := .internal ("JSON error: " ++ detail)

/-- The code of a failure. -/
def code : ServiceError → String
  | notFound _ => "NOT_FOUND"
  | tagNotFound _ => "TAG_NOT_FOUND"
  | revisionNotFound _ => "REVISION_NOT_FOUND"
  | badRequest _ => "BAD_REQUEST"
  | validation _ => "VALIDATION_ERROR"
  | database _ => "DATABASE_ERROR"
  | configuration _ => "CONFIG_ERROR"
  | internal _ => "INTERNAL_ERROR"

/-- **The wording of a failure.** -/
def message : ServiceError → String
  | notFound what => "Not found: " ++ what
  | tagNotFound tag => "Tag not found: " ++ tag
  | revisionNotFound revision => "Revision not found: " ++ revision
  | badRequest why => "Bad request: " ++ why
  | validation why => "Validation error: " ++ why
  | database why => "Database error: " ++ why
  | configuration why => "Configuration error: " ++ why
  | internal why => "Internal error: " ++ why

/-- Whether the failure is the site's own. -/
def isServerError : ServiceError → Bool
  | database _ | configuration _ | internal _ => true
  | _ => false

/-- Whether the failure is that something asked for does not exist. -/
def isNotFound : ServiceError → Bool
  | notFound _ | tagNotFound _ | revisionNotFound _ => true
  | _ => false

end ServiceError

end TagTimeline
