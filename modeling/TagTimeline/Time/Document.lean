import TagTimeline.Json.Record
import TagTimeline.Time.Rfc3339

/-!
# Timestamps in JSON Documents

A timestamp is a string in a document, in its RFC 3339 form.
-/

namespace TagTimeline.Time.Timestamp

open TagTimeline.Json

/-- A timestamp as a document. -/
def toDocument (t : Timestamp) : Document := .text t.toText

/-- A timestamp in a document. -/
def ofDocument? (document : Document) : Option Timestamp := document.text?.bind read?

end TagTimeline.Time.Timestamp
