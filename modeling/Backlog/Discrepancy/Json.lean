import Backlog.Discrepancy
import Backlog.Json
/-!
Discrepancies in JSON, told apart by the field that they are about.
-/
namespace Backlog.Discrepancy
set_option autoImplicit false

def toJson : Discrepancy → Json
  | .sprint declared planned =>
    .record [("field", .text "sprint"), ("declared", .natural declared.toNat),
      ("catalog", .natural planned.toNat)]
  | .category declared planned =>
    .record [("field", .text "category"), ("declared", .text declared), ("catalog", .text planned)]

end Backlog.Discrepancy
