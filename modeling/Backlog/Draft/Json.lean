import Backlog.Draft
import Backlog.Catalog.Json
/-!
Drafts in JSON. The story's identifier is no part of the form; a draft that is read has none.
-/
namespace Backlog.Draft
set_option autoImplicit false

open Json

def toJson (d : Draft) : Json :=
  .record [("title", .text d.title), ("body", .text d.body), ("labels", ofTexts d.labels)]

def fieldNames : List (List Text) := [["title"], ["body"], ["labels"]]

def ofJson? (j : Json) : Option Draft :=
  match fields? fieldNames j with
  | some [title, body, labels] => do
    let title ← required text? title
    let body ← required text? body
    let labels ← required texts? labels
    return ⟨[], title, body, labels⟩
  | _ => none

end Backlog.Draft
