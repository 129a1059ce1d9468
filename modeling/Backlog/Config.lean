import Backlog.Catalog
import Backlog.Path
/-!
The configuration of a project, and the values that stand where nothing is configured.
-/
namespace Backlog
set_option autoImplicit false

structure TrackerSettings where
  /-- Nothing is opened unless this is set. -/
  enabled : Bool
  tokenEnv : Text
  apiUrl : Text
  deriving DecidableEq, Repr

def TrackerSettings.default : TrackerSettings :=
  ⟨false, "GITHUB_TOKEN", "https://api.github.com"⟩

structure Config where
  /-- The directory of the documents, below the project unless absolute. -/
  storiesDir : Text
  filePrefix : Text
  /-- The repository of the issues, `owner/name`. -/
  repository : Text
  tracker : TrackerSettings
  /-- Takes the place of the built-in catalog. -/
  ownCatalog : Option Catalog

namespace Config

def default : Config where
  storiesDir := "docs/user-stories"
  filePrefix := "US"
  repository := "RoySalisbury/HVO.Enterprise"
  tracker := TrackerSettings.default
  ownCatalog := none

def catalog (c : Config) : Catalog := c.ownCatalog.getD Catalog.builtin

def resolveDir (c : Config) (project : Text) : Text := Path.join project c.storiesDir

def path (project : Text) : Text := Path.join project ".stories/config.json"

end Config

end Backlog
