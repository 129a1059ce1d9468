import Backlog.Catalog
/-!
The labels of a story's issue. They come from the catalog alone: the sprint and category that a
document declares have no say.

- `Labels.push`: adding a label that is present changes nothing;
- `Bucket.ofCategory?`: the first bucket whose words a category contains;
- `Priority.ofSprint`: the earlier the sprint, the higher the priority;
- `Labels.derive`: all labels of a story, in the order in which they are shown.
-/
namespace Backlog
set_option autoImplicit false

/-! ## Lists of labels -/

/-- Labels in the order of their first addition. -/
structure Labels where
  toList : List Text
  deriving DecidableEq, Repr

namespace Labels

def empty : Labels := ⟨[]⟩

/-- The labels with one more at the end, unless it is there already. -/
def push (ls : Labels) (label : Text) : Labels :=
  if ls.toList.contains label then ls else ⟨ls.toList ++ [label]⟩

def pushAll (ls : Labels) (more : List Text) : Labels := more.foldl push ls

def joined (ls : Labels) (sep : Text) : Text := Text.join sep ls.toList

end Labels

/-! ## Categories -/

inductive Bucket where
  | corePackage
  | extensionPackage
  | testing
  | documentation
  deriving DecidableEq, Repr

namespace Bucket

/-- The bucket of a category in free words: the first one whose words occur in it. -/
def ofCategory? (category : Text) : Option Bucket :=
  if Text.occurs "Core Package" category then some .corePackage
  else if Text.occurs "Extension Package" category then some .extensionPackage
  else if Text.occurs "Testing" category || Text.occurs "Samples" category then some .testing
  else if Text.occurs "Documentation" category then some .documentation
  else none

def label : Bucket → Text
  | .corePackage => "core-package"
  | .extensionPackage => "extension-package"
  | .testing => "testing"
  | .documentation => "documentation"

end Bucket

/-! ## Priorities -/

inductive Priority where
  | p0
  | p1
  | p2
  | p3
  deriving DecidableEq, Repr

namespace Priority

/-- Sprints up to 2, 4 and 8 bound the first three tiers. A story without a sprint is in the last.
-/
def ofSprint : Option UInt32 → Priority
  | none => .p3
  | some s => if s ≤ 2 then .p0 else if s ≤ 4 then .p1 else if s ≤ 8 then .p2 else .p3

def label : Priority → Text
  | .p0 => "priority:p0"
  | .p1 => "priority:p1"
  | .p2 => "priority:p2"
  | .p3 => "priority:p3"

end Priority

/-! ## The labels of a story -/

namespace Labels

def base : Text := "user-story"

def status (complete : Bool) : Text :=
  if complete then "status:complete" else "status:not-started"

/-- A number that counts: zero is read as absent. -/
def positive (n : Option UInt32) : Option UInt32 := n.filter (0 < ·)

/-- A label that ends in a number, if there is a number. -/
def numbered (lead : Text) (n : Option UInt32) : List Text :=
  n.toList.map fun n => lead ++ Text.decimal n.toNat

/-- The labels for a completion and planning data, each rule pushing its own. -/
def ofPlan (complete : Bool) (plan : Metadata) : Labels :=
  let points := positive plan.storyPoints
  let sprint := positive plan.sprint
  let bucket := plan.category.bind Bucket.ofCategory?
  ((((((empty.push base).push (status complete)).pushAll (numbered "sp-" points)).pushAll
    (numbered "sprint-" sprint)).pushAll (bucket.toList.map Bucket.label)).push
    (Priority.ofSprint sprint).label)

def derive (id : Text) (catalog : Catalog) : Labels :=
  ofPlan (catalog.isComplete id) (catalog.metadata id)

end Labels

end Backlog
