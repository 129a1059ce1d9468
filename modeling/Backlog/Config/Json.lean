import Backlog.Catalog.Json
import Backlog.Config
import Backlog.Storage
/-!
Configurations in JSON. Every field may be left out and then has its default; the catalog is written
only when there is one.

- `Config.load`: the configuration of a project, the default one when there is no file.
-/
namespace Backlog
set_option autoImplicit false

open Json

namespace TrackerSettings

def toJson (s : TrackerSettings) : Json :=
  .record [("enabled", .bool s.enabled), ("tokenEnv", .text s.tokenEnv), ("apiUrl", .text s.apiUrl)]

def fieldNames : List (List Text) := [["enabled"], ["tokenEnv"], ["apiUrl"]]

def ofJson? (j : Json) : Option TrackerSettings :=
  match fields? fieldNames j with
  | some [enabled, tokenEnv, apiUrl] => do
    let enabled ← withDefault default.enabled bool? enabled
    let tokenEnv ← withDefault default.tokenEnv text? tokenEnv
    let apiUrl ← withDefault default.apiUrl text? apiUrl
    return { enabled, tokenEnv, apiUrl }
  | _ => none

end TrackerSettings

namespace Config

def toJson (c : Config) : Json :=
  .record <| ("storiesDir", .text c.storiesDir) :: ("filePrefix", .text c.filePrefix) ::
    ("repository", .text c.repository) :: ("github", c.tracker.toJson) ::
    member "catalog" Catalog.toJson c.ownCatalog

def fieldNames : List (List Text) :=
  [["storiesDir"], ["filePrefix"], ["repository"], ["github"], ["catalog"]]

def ofJson? (j : Json) : Option Config :=
  match fields? fieldNames j with
  | some [storiesDir, filePrefix, repository, tracker, ownCatalog] => do
    let storiesDir ← withDefault default.storiesDir text? storiesDir
    let filePrefix ← withDefault default.filePrefix text? filePrefix
    let repository ← withDefault default.repository text? repository
    let tracker ← withDefault default.tracker TrackerSettings.ofJson? tracker
    let ownCatalog ← nullable Catalog.ofJson? ownCatalog
    return { storiesDir, filePrefix, repository, tracker, ownCatalog }
  | _ => none

/-- The configuration that a project keeps. A missing file is no error. -/
def load (storage : Storage) (project : Text) : Except StoryError Config :=
  match storage.read (path project) with
  | .error .missing => .ok default
  | .error fault => .error (fault.error (path project))
  | .ok content =>
    match decode ofJson? content with
    | .error refusal => .error (.configRefused (path project ++ ": " ++ refusal.message))
    | .ok config => .ok config

end Config

end Backlog
