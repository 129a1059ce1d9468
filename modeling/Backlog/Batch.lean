import Backlog.Discrepancy
import Backlog.Publisher
import Backlog.Shelf
/-!
One run over a shelf: each document in order is read, drafted, checked and handed to a publisher. An
issue that cannot be opened is noted and the run goes on; a document that cannot be read ends it.
-/
namespace Backlog
set_option autoImplicit false

inductive Outcome where
  | dryRun
  | created (issue : Issue)
  | failed (reason : Text)
  deriving DecidableEq, Repr

def Outcome.ofAnswer : Answer → Outcome
  | .ok (some issue) => .created issue
  | .ok none => .dryRun
  | .error e => .failed e.message

def Outcome.isFailure : Outcome → Bool
  | .failed _ => true
  | _ => false

structure StoryReport where
  id : Text
  issueTitle : Text
  labels : List Text
  complete : Bool
  /-- The bytes of the body in UTF-8. -/
  bodyLength : Nat
  discrepancies : List Discrepancy
  outcome : Outcome
  deriving DecidableEq, Repr

structure Report where
  stories : List StoryReport
  summary : Summary
  deriving DecidableEq, Repr

def Report.failures (r : Report) : Nat := (r.stories.filter (·.outcome.isFailure)).length

namespace Batch

variable {σ : Type}

def reportOf (catalog : Catalog) (story : Story) (answer : Answer) : StoryReport :=
  let draft := story.draft catalog
  { id := story.id
    issueTitle := draft.title
    labels := draft.labels
    complete := catalog.isComplete story.id
    bodyLength := Text.utf8Length draft.body
    discrepancies := story.discrepancies catalog
    outcome := .ofAnswer answer }

/-- The documents at these paths, one after the other. -/
def publish (publisher : Publisher σ) (catalog : Catalog) (storage : Storage) :
    List Text → σ → Except StoryError (List StoryReport) × σ
  | [], state => (.ok [], state)
  | path :: paths, state =>
    match storage.load path with
    | .error e => (.error e, state)
    | .ok story =>
      let (answer, state) := publisher.create (story.draft catalog) state
      match publish publisher catalog storage paths state with
      | (.ok reports, state) => (.ok (reportOf catalog story answer :: reports), state)
      | (.error e, state) => (.error e, state)

def run (shelf : Shelf) (storage : Storage) (publisher : Publisher σ) (state : σ) :
    Except StoryError Report × σ :=
  match shelf.discover storage with
  | .error e => (.error e, state)
  | .ok paths =>
    match publish publisher shelf.catalog storage paths state with
    | (.error e, state) => (.error e, state)
    | (.ok reports, state) =>
      (.ok ⟨reports, Shelf.countAll shelf.catalog (reports.map (·.id))⟩, state)

end Batch

end Backlog
