import Backlog.Command.Arguments
import Backlog.Console
import Backlog.Discrepancy.Json
import Backlog.Draft.Json
import Backlog.Project
import Backlog.Story.Json
import Backlog.Tracker
/-!
The program as a function: from its arguments and what it finds around it to what it prints, how it
ends and what the peer has been asked.

- `Command.sync`, `Command.listing`, `Command.details`: the three commands;
- `Command.run`: an invocation in its project;
- `Command.execute`: a whole command line.
-/
namespace Backlog.Command
set_option autoImplicit false

/-! ## Surroundings and ends -/

/-- What a command finds around it. -/
structure World where
  storage : Storage
  cwd : Text
  environment : Environment
  peer : Http.Peer

/-- How a command ends: what it has shown, the error that ended it early if there was one, and the
peer after all requests. -/
structure Finish where
  lines : List Text
  error? : Option Text
  peer : Http.Peer

namespace Finish

def output (f : Finish) : Text := Console.print (f.lines ++ f.error?.toList.map Console.failure)

def exitCode (f : Finish) : UInt8 := if f.error?.isSome then 1 else 0

/-- The end of a command that has shown some lines, when its last part gives more lines or an error.
-/
def ofLast (shown : List Text) (peer : Http.Peer) : Except StoryError (List Text) → Finish
  | .ok lines => ⟨shown ++ lines, none, peer⟩
  | .error e => ⟨shown, some e.message, peer⟩

end Finish

/-! ## Issues for all stories -/

def preview (p : Project) (w : World) : Finish :=
  let (report, _) := Batch.run p.shelf w.storage Publisher.dryRun ()
  .ofLast Console.dryRunBanner w.peer (report.map Console.reportLines)

/-- The error of a run that would have to ask first: nobody is there to be asked. -/
def unconfirmed : Text := "Failed to read confirmation: IO error: not a terminal"

def publish (yes : Bool) (p : Project) (w : World) : Finish :=
  match Tracker.ofSettings p.config.tracker w.environment p.config.repository with
  | .error .integrationDisabled =>
    .ofLast (Console.remediation p.configPath p.config.tracker.tokenEnv) w.peer
      ((p.shelf.summarize w.storage).map Console.summaryLines)
  | .error e => ⟨[], some ("Cannot create issues: " ++ e.message), w.peer⟩
  | .ok tracker =>
    if yes then
      let (report, peer) := Batch.run p.shelf w.storage tracker.publisher w.peer
      .ofLast [] peer (report.map Console.reportLines)
    else ⟨[], some unconfirmed, w.peer⟩

/-- One issue per story, opened when `live`. Without a directory of documents nothing is shown. -/
def sync (live yes : Bool) (p : Project) (w : World) : Finish :=
  match p.shelf.discover w.storage with
  | .error e => ⟨[], some e.message, w.peer⟩
  | .ok _ => if live then publish yes p w else preview p w

/-! ## Stories -/

def listing (p : Project) (storage : Storage) : Except StoryError (List Text) := do
  return Console.listLines (← p.shelf.loadAll storage) p.shelf.catalog

/-- A story, its draft, and where its document and the catalog disagree. -/
def storyJson (story : Story) (catalog : Catalog) : Json :=
  .record [("record", story.toJson), ("issue", (story.draft catalog).toJson),
    ("discrepancies", .array ((story.discrepancies catalog).map Discrepancy.toJson))]

def details (id : Text) (json : Bool) (p : Project) (storage : Storage) :
    Except StoryError (List Text) := do
  let story ← storage.load (← p.shelf.find storage id)
  if json then return [(storyJson story p.shelf.catalog).render .indented]
  else return Console.detailLines story p.shelf.catalog

/-! ## Command lines -/

def perform (action : Action) (p : Project) (w : World) : Finish :=
  match action with
  | .sync live yes => sync live yes p w
  | .list => .ofLast [] w.peer (listing p w.storage)
  | .show id json => .ofLast [] w.peer (details id json p w.storage)

/-- What an invocation does. The project is the working directory unless another one is given. -/
def run (invocation : Invocation) (w : World) : Finish :=
  let given := invocation.given
  match Project.load w.storage (given.project.getD w.cwd) given.dir given.repo with
  | .error e => ⟨[], some e.message, w.peer⟩
  | .ok p => perform invocation.action p w

/-- What a command line leads to: the exit code, what is printed, and the peer afterwards. -/
structure Result where
  exitCode : UInt8
  output : Text
  peer : Http.Peer

def Stop.result (peer : Http.Peer) : Stop → Result
  | .version => ⟨0, Console.print [Console.versionLine], peer⟩
  | .help => ⟨0, Console.print Console.usage, peer⟩
  | .refused => ⟨2, [], peer⟩

def execute (args : List Text) (w : World) : Result :=
  match Invocation.ofArguments args with
  | .error stop => stop.result w.peer
  | .ok invocation =>
    let finish := run invocation w
    ⟨finish.exitCode, finish.output, finish.peer⟩

end Backlog.Command
