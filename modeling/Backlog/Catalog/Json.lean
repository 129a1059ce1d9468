import Backlog.Catalog
import Backlog.Json.Decode
/-!
Planning data in JSON. Absent numbers and categories are left out; a zero is written. The points of
a story may be called `sp` when read.
-/
namespace Backlog
set_option autoImplicit false

open Json

/-- A member that is left out when its value is absent. -/
def Json.member {α : Type} (name : Text) (write : α → Json) (value : Option α) :
    List (Text × Json) :=
  value.toList.map fun a => (name, write a)

def Json.ofDict {α : Type} (write : α → Json) (d : Dict α) : Json :=
  .record (d.entries.map fun e => (e.1, write e.2))

def Json.ofTexts (ts : List Text) : Json := .array (ts.map .text)

def Json.texts? : Json → Option (List Text) := list? text?

namespace Metadata

def toJson (m : Metadata) : Json :=
  .record <| member "sprint" (fun n => .natural n.toNat) m.sprint ++
    member "storyPoints" (fun n => .natural n.toNat) m.storyPoints ++
    member "category" .text m.category

def fieldNames : List (List Text) := [["sprint"], ["storyPoints", "sp"], ["category"]]

def ofJson? (j : Json) : Option Metadata :=
  match fields? fieldNames j with
  | some [sprint, points, category] => do
    let sprint ← nullable toWord32? sprint
    let points ← nullable toWord32? points
    let category ← nullable text? category
    return ⟨sprint, points, category⟩
  | _ => none

end Metadata

namespace Catalog

def toJson (c : Catalog) : Json :=
  .record [("completed", ofTexts c.completed.keys), ("metadata", ofDict Metadata.toJson c.plans)]

def fieldNames : List (List Text) := [["completed"], ["metadata"]]

def ofJson? (j : Json) : Option Catalog :=
  match fields? fieldNames j with
  | some [completed, plans] => do
    let completed ← withDefault [] texts? completed
    let plans ← withDefault Dict.empty (dict? Metadata.ofJson?) plans
    return ⟨TextSet.ofList completed, plans⟩
  | _ => none

end Catalog

end Backlog
