import Backlog.Story
import Backlog.Label
/-!
Where a story's header and the catalog disagree. The catalog decides; a discrepancy only tells. What
is missing on either side is no discrepancy, and two categories of one bucket agree.
-/
namespace Backlog
set_option autoImplicit false

inductive Discrepancy where
  | sprint (declared planned : UInt32)
  /-- The categories belong to different buckets. -/
  | category (declared planned : Text)
  deriving DecidableEq, Repr

namespace Discrepancy

def message : Discrepancy → Text
  | .sprint declared planned =>
    "document declares sprint " ++ Text.decimal declared.toNat ++ " but catalog says sprint " ++
      Text.decimal planned.toNat
  | .category declared planned =>
    "document declares category '" ++ declared ++ "' but catalog says '" ++ planned ++ "'"

def ofSprints : Option UInt32 → Option UInt32 → List Discrepancy
  | some declared, some planned => if declared = planned then [] else [.sprint declared planned]
  | _, _ => []

def ofCategories (declared : Text) : Option Text → List Discrepancy
  | some planned =>
    if declared ≠ Story.unknown ∧ Bucket.ofCategory? declared ≠ Bucket.ofCategory? planned then
      [.category declared planned]
    else []
  | none => []

end Discrepancy

/-- The discrepancies between a story and the catalog: first the sprint's, then the category's. -/
def Story.discrepancies (story : Story) (catalog : Catalog) : List Discrepancy :=
  let plan := catalog.metadata story.id
  Discrepancy.ofSprints story.declaredSprint plan.sprint ++
    Discrepancy.ofCategories story.category plan.category

end Backlog
