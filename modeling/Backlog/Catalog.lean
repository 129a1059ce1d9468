import Backlog.Dict
/-!
The planning data kept beside the documents: which stories are finished, and for each planned story
its sprint, its points and its category. The catalog alone decides labels.

- `Catalog.metadata`: what is planned for a story, nothing for one that is not listed;
- `Catalog.builtin`: the catalog used when a project brings none.
-/
namespace Backlog
set_option autoImplicit false

/-- What is planned for one story. -/
structure Metadata where
  sprint : Option UInt32
  storyPoints : Option UInt32
  category : Option Text
  deriving DecidableEq, Repr

def Metadata.blank : Metadata := ⟨none, none, none⟩

structure Catalog where
  completed : TextSet
  plans : Dict Metadata

namespace Catalog

def empty : Catalog := ⟨Dict.empty, Dict.empty⟩

def isComplete (c : Catalog) (id : Text) : Bool := c.completed.contains id

def metadata (c : Catalog) (id : Text) : Metadata := (c.plans.get? id).getD Metadata.blank

/-! ## The catalog used when a project brings none -/

def builtinCompleted : List Text := ["US-001", "US-002", "US-003", "US-004", "US-019"]

/-- Identifier, sprint, points and category of each planned story. -/
def builtinPlans : List (Text × UInt32 × UInt32 × Text) := [
  ("US-001", 1, 3, "Core Package"),
  ("US-002", 1, 5, "Core Package"),
  ("US-003", 3, 5, "Core Package"),
  ("US-004", 2, 8, "Core Package"),
  ("US-005", 1, 5, "Core Package"),
  ("US-006", 2, 8, "Core Package"),
  ("US-007", 5, 3, "Core Package"),
  ("US-008", 5, 5, "Core Package"),
  ("US-009", 2, 5, "Core Package"),
  ("US-010", 3, 5, "Core Package"),
  ("US-011", 5, 5, "Core Package"),
  ("US-012", 3, 8, "Core Package"),
  ("US-013", 4, 5, "Core Package"),
  ("US-014", 6, 8, "Core Package"),
  ("US-015", 6, 5, "Core Package"),
  ("US-016", 4, 5, "Core Package"),
  ("US-017", 5, 3, "Core Package"),
  ("US-018", 4, 5, "Core Package"),
  ("US-019", 6, 5, "Extension Package"),
  ("US-020", 7, 3, "Extension Package"),
  ("US-021", 7, 5, "Extension Package"),
  ("US-022", 7, 8, "Extension Package"),
  ("US-023", 8, 3, "Extension Package"),
  ("US-024", 8, 5, "Extension Package"),
  ("US-025", 8, 5, "Extension Package"),
  ("US-026", 9, 30, "Testing & Samples"),
  ("US-027", 10, 13, "Testing & Samples"),
  ("US-028", 10, 13, "Testing & Samples"),
  ("US-029", 10, 8, "Documentation"),
  ("US-030", 10, 3, "Documentation")]

def builtin : Catalog where
  completed := TextSet.ofList builtinCompleted
  plans := Dict.ofList <| builtinPlans.map fun (id, sprint, points, category) =>
    (id, ⟨some sprint, some points, some category⟩)

end Catalog

end Backlog
