import Backlog.Config.Json
import Backlog.Shelf
/-!
A project: a directory with a configuration, which says where the shelf of its documents is.
-/
namespace Backlog
set_option autoImplicit false

structure Project where
  root : Text
  config : Config

namespace Project

/-- The project at a path. A directory of documents or a repository that is given takes the place of
the configured one. -/
def load (storage : Storage) (root : Text) (dir repository : Option Text) :
    Except StoryError Project := do
  let config ← Config.load storage root
  return { root, config := { config with
    storiesDir := dir.getD config.storiesDir
    repository := repository.getD config.repository } }

def configPath (p : Project) : Text := Config.path p.root

def shelf (p : Project) : Shelf :=
  ⟨p.config.resolveDir p.root, p.config.filePrefix, p.config.catalog⟩

end Project

end Backlog
