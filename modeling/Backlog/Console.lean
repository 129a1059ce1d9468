import Backlog.Batch
import Backlog.Release
import Backlog.Table
/-!
What the program shows: banners, the block of a story, summaries, tables and details. Each is a list
of lines.
-/
namespace Backlog.Console
set_option autoImplicit false

def print (lines : List Text) : Text := lines.flatMap (· ++ ['\n'])

/-! ## Messages -/

def success (message : Text) : Text := "✓ " ++ message

def failure (message : Text) : Text := "✗ " ++ message

def info (message : Text) : Text := "ℹ " ++ message

def warning (message : Text) : Text := "⚠ " ++ message

/-! ## The program itself -/

def versionLine : Text := Release.name ++ " " ++ Release.version

def usage : List Text :=
  ["Create GitHub issues from user story markdown files", [],
    "Usage: stories [OPTIONS] <COMMAND>", [],
    "Commands:",
    "  sync [--no-dry-run] [-y, --yes]  Print, or create, one issue per user story",
    "  list                             List user stories with their labels",
    "  show [--json] <ID>               Show a parsed user story and the issue it would produce", [],
    "Options:",
    "      --project <PROJECT>  Project root directory",
    "      --dir <DIR>          User stories directory (overrides configuration)",
    "      --repo <REPO>        Target repository as owner/name (overrides configuration)",
    "  -h, --help               Print help",
    "  -V, --version            Print version"]

/-! ## Runs -/

def stroke : Text := Text.repeated 80 '='

def completion (complete : Bool) : Text := if complete then "✅ COMPLETE" else "❌ NOT STARTED"

def dryRunBanner : List Text :=
  [stroke, "DRY RUN MODE - No issues will be created",
    "Run with --no-dry-run to actually create issues", stroke, []]

def foundLine (n : Nat) : List Text := ["Found " ++ Text.decimal n ++ " user story files", []]

def outcomeLine : Outcome → Text
  | .dryRun => "DRY RUN - Would create issue"
  | .created issue =>
    success ("Created issue #" ++ Text.decimal issue.number.toNat ++ " (" ++ issue.url ++ ")")
  | .failed reason => failure ("Error creating issue: " ++ reason)

/-- The part of a story's block above its outcome. -/
def blockHead (r : StoryReport) : List Text :=
  [stroke, "Story: " ++ r.id, "Title: " ++ r.issueTitle, "Labels: " ++ Text.join ", " r.labels,
    "Status: " ++ completion r.complete, "Body length: " ++ Text.decimal r.bodyLength ++ " bytes"] ++
    r.discrepancies.map fun d => warning d.message

def storyBlock (r : StoryReport) : List Text := blockHead r ++ [outcomeLine r.outcome, []]

def summaryLines (s : Summary) : List Text :=
  [[], stroke, "Summary:", "- Total stories: " ++ Text.decimal s.total,
    "- Completed stories: " ++ Text.decimal s.completed,
    "- Not started stories: " ++ Text.decimal s.notStarted, stroke]

def failureLines (failures : Nat) : List Text :=
  if failures = 0 then []
  else [warning (Text.decimal failures ++ " issue(s) could not be created")]

def reportLines (r : Report) : List Text :=
  foundLine r.stories.length ++ r.stories.flatMap storyBlock ++ summaryLines r.summary ++
    failureLines r.failures

/-- How to switch on the opening of issues. -/
def remediation (configPath tokenEnv : Text) : List Text :=
  [failure "GitHub API integration not yet enabled", "To enable:",
    "1. Set \"github\": \x7b \"enabled\": true \x7d in " ++ configPath,
    "2. Set the " ++ tokenEnv ++ " environment variable to a token with issue write access",
    "3. Run with the --no-dry-run flag", []]

/-! ## Lists -/

def storyRow (catalog : Catalog) (story : Story) : List Table.Cell :=
  [story.id, story.title, completion (catalog.isComplete story.id),
    Text.decimal story.stored.length ++ '/' :: Text.decimal Section.all.length,
    (Labels.derive story.id catalog).joined ", "]

def storyTable (stories : List Story) (catalog : Catalog) : Text :=
  Table.render ["ID", "Title", "Status", "Sections", "Labels"] (stories.map (storyRow catalog))

/-- The table and how many stories it shows, or that there are none. -/
def listLines (stories : List Story) (catalog : Catalog) : List Text :=
  if stories.isEmpty then [info "No user stories found"]
  else
    [storyTable stories catalog, [],
      info (Text.decimal stories.length ++ " story(ies) total")]

/-! ## Details -/

def doubleStroke : Text := Text.repeated 60 '═'

/-- The headings of the sections without a text to show. -/
def missingLines (story : Story) : List Text :=
  match (Section.all.filter fun s => !story.hasSection s).map Section.heading with
  | [] => []
  | missing => ["Missing sections: " ++ Text.join ", " missing]

def detailLines (story : Story) (catalog : Catalog) : List Text :=
  let draft := story.draft catalog
  [doubleStroke,
    "Story " ++ story.id ++ " [" ++ completion (catalog.isComplete story.id) ++ "]",
    doubleStroke, [],
    "Title: " ++ story.title, "Status: " ++ story.status, "Category: " ++ story.category,
    "Effort: " ++ story.effort, "Sprint: " ++ story.sprint,
    "Labels: " ++ Text.join ", " draft.labels] ++
    missingLines story ++ (story.discrepancies catalog).map (fun d => warning d.message) ++
    [[], "Issue body", if draft.body.isEmpty then "(empty)" else draft.body, []]

end Backlog.Console
