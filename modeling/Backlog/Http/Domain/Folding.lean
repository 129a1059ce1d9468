import Backlog.Http.Domain.Folding.Table
import Backlog.Http.Domain.Rows
import Backlog.Text.Classes
/-!
Folding the characters of a name, so that names which are told apart only by case or by the form of
their letters become one.
-/
namespace Backlog.Http.Domain
set_option autoImplicit false

namespace Folding

/-- The image of a character in one of the runs. -/
def shifted? (c : Char) : Option Char :=
  shifts.findSome? fun (first, last, distance, image) =>
    if first ≤ c.toNat && c.toNat ≤ last && (c.toNat - first) % distance == 0 then
      some (Char.ofNat (image + (c.toNat - first)))
    else none

def imageRows : List (Char × Text) := rows images

end Folding

def fold (c : Char) : Text :=
  if inRanges Folding.dropped c then []
  else
    match Folding.shifted? c with
    | some image => [image]
    | none => (Folding.imageRows.lookup c).getD [c]

end Backlog.Http.Domain
