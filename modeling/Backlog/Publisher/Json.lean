import Backlog.Json.Decode
import Backlog.Publisher
/-!
Opened issues in JSON: the number of the issue and the address of its page.
-/
namespace Backlog.Issue
set_option autoImplicit false

open Json

def toJson (i : Issue) : Json :=
  .record [("number", .natural i.number.toNat), ("html_url", .text i.url)]

def fieldNames : List (List Text) := [["number"], ["html_url"]]

def ofJson? (j : Json) : Option Issue :=
  match fields? fieldNames j with
  | some [number, url] => do
    let number ← required toWord64? number
    let url ← required text? url
    return ⟨number, url⟩
  | _ => none

end Backlog.Issue
