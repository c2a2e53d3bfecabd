import TagTimeline.Config.TestDatabase
import TagTimeline.Id
import TagTimeline.Main
import TagTimeline.Proofs.Config.Resolving
import TagTimeline.Proofs.Id.Ordering
import TagTimeline.Proofs.Json.Models
import TagTimeline.Proofs.Request.Reception
import TagTimeline.Proofs.Revision.Decoding
import TagTimeline.Proofs.Revision.History
import TagTimeline.Proofs.Site.History
import TagTimeline.Proofs.Site.Seeding
import TagTimeline.Proofs.Startup.Restart
import TagTimeline.Proofs.Store.Emptying
import TagTimeline.Proofs.Store.Interruption
import TagTimeline.Proofs.Tag.Agreement
import TagTimeline.Proofs.Tag.Completion
import TagTimeline.Proofs.Tag.FarPages
import TagTimeline.Proofs.Tag.Filtering
import TagTimeline.Proofs.Tag.LastWrite
import TagTimeline.Proofs.Tag.LookUp
import TagTimeline.Proofs.Tag.Overwriting
import TagTimeline.Proofs.Tag.Removal
import TagTimeline.Proofs.Tag.Search
import TagTimeline.Proofs.Tag.Synonyms
import TagTimeline.Proofs.Tag.WriteBack
import TagTimeline.Proofs.Timeline.AppendOnly
import TagTimeline.Proofs.Timeline.Comparison
import TagTimeline.Proofs.Timeline.Enrichment
import TagTimeline.Store.Cleanup
