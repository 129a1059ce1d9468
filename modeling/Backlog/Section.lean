import Backlog.Text
/-!
The nine named sections of a story document, in the order in which an issue shows them.
-/
namespace Backlog
set_option autoImplicit false

inductive Section where
  | description
  | acceptanceCriteria
  | technicalRequirements
  | testingRequirements
  | performanceRequirements
  | dependencies
  | definitionOfDone
  | notes
  | relatedDocumentation
  deriving DecidableEq, Repr

namespace Section

def all : List Section :=
  [.description, .acceptanceCriteria, .technicalRequirements, .testingRequirements,
   .performanceRequirements, .dependencies, .definitionOfDone, .notes, .relatedDocumentation]

def heading : Section → Text
  | .description => "Description"
  | .acceptanceCriteria => "Acceptance Criteria"
  | .technicalRequirements => "Technical Requirements"
  | .testingRequirements => "Testing Requirements"
  | .performanceRequirements => "Performance Requirements"
  | .dependencies => "Dependencies"
  | .definitionOfDone => "Definition of Done"
  | .notes => "Notes"
  | .relatedDocumentation => "Related Documentation"

def key : Section → Text
  | .description => "description"
  | .acceptanceCriteria => "acceptance_criteria"
  | .technicalRequirements => "technical_requirements"
  | .testingRequirements => "testing_requirements"
  | .performanceRequirements => "performance_requirements"
  | .dependencies => "dependencies"
  | .definitionOfDone => "definition_of_done"
  | .notes => "notes"
  | .relatedDocumentation => "related_docs"

def ofKey? (key : Text) : Option Section := all.find? fun s => s.key == key

theorem mem_all (s : Section) : s ∈ all := by cases s <;> decide

theorem all_nodup : all.Nodup := by decide

theorem of_key_key (s : Section) : ofKey? s.key = some s := by cases s <;> decide

end Section

end Backlog
