import Backlog.Story
import Backlog.Label
/-!
The issue that a story would open: its title, a body that shows the sections in order, and labels.
-/
namespace Backlog
set_option autoImplicit false

structure Draft where
  storyId : Text
  title : Text
  body : Text
  labels : List Text
  deriving DecidableEq, Repr

namespace Story

def issueTitle (story : Story) : Text :=
  "[USER STORY]: " ++ story.id ++ " - " ++ story.title

/-- A section as an issue shows it: its heading, an empty line, its text. -/
def block (story : Story) (s : Section) : Text := "## " ++ s.heading ++ "\n\n" ++ story.text s

/-- The blocks of the sections with a text to show, in order, with an empty line between them. -/
def body (story : Story) : Text := Text.join "\n\n" (story.shown.map story.block)

def draft (story : Story) (catalog : Catalog) : Draft where
  storyId := story.id
  title := story.issueTitle
  body := story.body
  labels := (Labels.derive story.id catalog).toList

end Story

end Backlog
