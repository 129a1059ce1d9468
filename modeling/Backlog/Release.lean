import Backlog.Text
/-!
What the program calls itself.
-/
namespace Backlog.Release
set_option autoImplicit false

def name : Text := "stories"

def version : Text := "0.2.0"

end Backlog.Release
