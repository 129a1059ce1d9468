import Backlog.Story
import Backlog.Catalog.Json
/-!
Stories in JSON. The stored section texts are members named by key; empty ones are kept.
-/
namespace Backlog
set_option autoImplicit false

open Json

/-- The section that a JSON value names: its key, or an object whose only member has the key as its
name and null as its value. -/
def Section.ofJson? : Json → Option Section
  | .string s => s.bind ofKey?
  | .object [(name, .null)] => name.bind ofKey?
  | _ => none

namespace Story

def sectionsToJson (story : Story) : Json :=
  .record <| Section.all.flatMap fun s => member s.key .text (story.sections s)

def toJson (story : Story) : Json :=
  .record [("id", .text story.id), ("title", .text story.title), ("status", .text story.status),
    ("category", .text story.category), ("effort", .text story.effort),
    ("sprint", .text story.sprint), ("sections", story.sectionsToJson)]

/-- Section texts from pairs of key and text, of which the last for a section counts. An unknown key
is refused. -/
def sectionsOfPairs? : List (Text × Text) → Option (Section → Option Text)
  | [] => some fun _ => none
  | (key, t) :: pairs => do
    let s ← Section.ofKey? key
    let later ← sectionsOfPairs? pairs
    return fun other => later other <|> if other = s then some t else none

def sectionsOfJson? (j : Json) : Option (Section → Option Text) :=
  (pairs? text? j).bind sectionsOfPairs?

def fieldNames : List (List Text) :=
  [["id"], ["title"], ["status"], ["category"], ["effort"], ["sprint"], ["sections"]]

def ofJson? (j : Json) : Option Story :=
  match fields? fieldNames j with
  | some [id, title, status, category, effort, sprint, sections] => do
    let id ← required text? id
    let title ← required text? title
    let status ← required text? status
    let category ← required text? category
    let effort ← required text? effort
    let sprint ← required text? sprint
    let sections ← withDefault (fun _ => none) sectionsOfJson? sections
    return { id, title, status, category, effort, sprint, sections }
  | _ => none

end Story

end Backlog
