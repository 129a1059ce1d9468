import Backlog.Text
/-!
What can go wrong between a directory of documents and an issue tracker, and the words for it.
-/
namespace Backlog
set_option autoImplicit false

inductive StoryError where
  /-- The directory of the documents is missing or is no directory. -/
  | directoryNotFound (path : Text)
  | storyNotFound (id : Text)
  /-- The storage failed apart from a single path. -/
  | storage (reason : Text)
  /-- A file is there but cannot be read as text, or a directory cannot be opened. -/
  | fileUnreadable (path reason : Text)
  | jsonRefused (reason : Text)
  | configRefused (reason : Text)
  | integrationDisabled
  /-- The variable that should hold the token is unset or blank. -/
  | missingToken (name : Text)
  | publishFailed (storyId reason : Text)
  | invalidArgument (reason : Text)
  deriving DecidableEq, Repr

def StoryError.message : StoryError → Text
  | .directoryNotFound path => "User stories directory not found: " ++ path
  | .storyNotFound id => "Story '" ++ id ++ "' not found"
  | .storage reason => "Storage error: " ++ reason
  | .fileUnreadable path reason => "Failed to read file '" ++ path ++ "': " ++ reason
  | .jsonRefused reason => "Failed to parse JSON: " ++ reason
  | .configRefused reason => "Configuration error: " ++ reason
  | .integrationDisabled => "GitHub API integration not yet enabled"
  | .missingToken name => name ++ " environment variable not set"
  | .publishFailed storyId reason => "Failed to create issue for '" ++ storyId ++ "': " ++ reason
  | .invalidArgument reason => "Invalid argument: " ++ reason

end Backlog
