import Backlog.Batch
import Backlog.Discrepancy.Json
import Backlog.Publisher.Json
/-!
Runs and summaries in JSON.
-/
namespace Backlog
set_option autoImplicit false

def Outcome.toJson : Outcome → Json
  | .dryRun => .record [("outcome", .text "dryRun")]
  | .created issue =>
    .record [("outcome", .text "created"), ("number", .natural issue.number.toNat),
      ("url", .text issue.url)]
  | .failed reason => .record [("outcome", .text "failed"), ("reason", .text reason)]

def Summary.toJson (s : Summary) : Json :=
  .record [("total", .natural s.total), ("completed", .natural s.completed),
    ("notStarted", .natural s.notStarted)]

def StoryReport.toJson (r : StoryReport) : Json :=
  .record [("id", .text r.id), ("issueTitle", .text r.issueTitle),
    ("labels", .array (r.labels.map .text)), ("complete", .bool r.complete),
    ("bodyLen", .natural r.bodyLength),
    ("discrepancies", .array (r.discrepancies.map Discrepancy.toJson)),
    ("outcome", r.outcome.toJson)]

def Report.toJson (r : Report) : Json :=
  .record [("stories", .array (r.stories.map StoryReport.toJson)), ("summary", r.summary.toJson)]

end Backlog
