import Backlog.Draft
import Backlog.Error
/-!
Destinations for drafts. A publisher answers each draft it is handed, and its answer may depend on
all that went before: it is a step on a state.

- `Publisher.dryRun`: opens nothing;
- `Publisher.scripted`: gives prepared answers and keeps the drafts it was handed.
-/
namespace Backlog
set_option autoImplicit false

structure Issue where
  number : UInt64
  url : Text
  deriving DecidableEq, Repr

/-- What a publisher answers: an issue, nothing at all, or an error. -/
abbrev Answer := Except StoryError (Option Issue)

structure Publisher (σ : Type) where
  name : Text
  isLive : Bool
  create : Draft → σ → Answer × σ

namespace Publisher

def dryRun {σ : Type} : Publisher σ where
  name := "dry-run"
  isLive := false
  create := fun _ state => (.ok none, state)

/-- A prepared answer: an issue to open, or a reason to fail. -/
inductive Prepared where
  | opened (issue : Issue)
  | failure (reason : Text)
  deriving DecidableEq, Repr

/-- Prepared answers, and the drafts handed over so far. -/
structure Script where
  answers : List (Option Prepared)
  handed : List Draft

/-- The answer to a draft when one is prepared. Where none is, nothing is opened. -/
def Prepared.answer (draft : Draft) : Option Prepared → Answer
  | some (.opened issue) => .ok (some issue)
  | some (.failure reason) => .error (.publishFailed draft.storyId reason)
  | none => .ok none

def scripted : Publisher Script where
  name := "scripted"
  isLive := true
  create := fun draft script =>
    (Prepared.answer draft script.answers.head?.join,
      ⟨script.answers.tail, script.handed ++ [draft]⟩)

end Publisher

end Backlog
