import Backlog.Config
import Backlog.Draft.Json
import Backlog.Http
import Backlog.Publisher.Json
import Backlog.Release
import Backlog.Text.Classes
/-!
The issue tracker: one request per draft, and what its reply means.

- `Tracker.new`, `Tracker.ofSettings`: a tracker for a repository, with the reasons to refuse one;
- `Tracker.request?`: the request for a draft, unless none can be formed;
- `Tracker.publisher`: the tracker as a publisher whose state is the peer.
-/
namespace Backlog
set_option autoImplicit false

structure Tracker where
  /-- The address of the service, without slashes at its end. -/
  apiUrl : Text
  repository : Text
  token : Text
  deriving DecidableEq, Repr

abbrev Environment := List (Text × Text)

namespace Tracker

/-! ## Trackers -/

/-- A tracker, if the repository has two parts that are not empty. -/
def new (apiUrl repository token : Text) : Except StoryError Tracker :=
  if (Path.parts repository).length = 2 then
    .ok ⟨Text.trimEnd (· == '/') apiUrl, repository, token⟩
  else .error (.invalidArgument ("repository must be 'owner/name', got '" ++ repository ++ "'"))

/-- The token that a variable holds, unless it is blank. -/
def token? (env : Environment) (name : Text) : Option Text :=
  (env.lookup name).filter fun token => !(Text.trim isBlank token).isEmpty

def ofSettings (settings : TrackerSettings) (env : Environment) (repository : Text) :
    Except StoryError Tracker :=
  if !settings.enabled then .error .integrationDisabled
  else
    match token? env settings.tokenEnv with
    | none => .error (.missingToken settings.tokenEnv)
    | some token => new settings.apiUrl repository token

/-! ## Requests -/

def issuesUrl (t : Tracker) : Text := t.apiUrl ++ "/repos/" ++ t.repository ++ "/issues"

def userAgent : Text := Release.name ++ "/" ++ Release.version

/-- The request for a draft, and the address it goes to; or the reason why none can be formed. -/
def request? (t : Tracker) (draft : Draft) : Except Text (Http.Url × Http.Request) :=
  let authorization := "Bearer " ++ t.token
  match Http.Url.parse? t.issuesUrl with
  | none => .error "builder error"
  | some url =>
    let url := url.withoutCredentials
    let refused : Text := "builder error for url (" ++ url.toText ++ ")"
    if url.host?.isNone then .error refused
    else if !authorization.all Http.fitsHeader then .error "builder error"
    else if !url.canBeAsked then .error refused
    else
      .ok (url, {
        method := "POST"
        path := url.target
        accept := "application/vnd.github+json"
        authorization := Http.headerValue authorization
        contentType := "application/json"
        userAgent := userAgent
        body := draft.toJson.render .compact })

/-! ## Replies -/

def unanswered (url : Http.Url) : Text :=
  "request failed: error sending request for url (" ++ url.toText ++ ")"

def issue? (body : Text) : Option Issue := (Json.decode Issue.ofJson? body).toOption

/-- The issue that a reply tells of, or the reason why there is none. -/
def issueOf (url : Http.Url) (reply : Http.Reply) : Except Text Issue :=
  match reply.message? with
  | none => .error (unanswered url)
  | some message =>
    if Http.isSuccess message.status then
      match message.text?.bind issue? with
      | some issue => .ok issue
      | none => .error "failed to parse response: error decoding response body"
    else .error ("GitHub API returned " ++ Http.showStatus message.status ++ ": " ++ message.text)

def answer (draft : Draft) : Except Text Issue → Answer
  | .ok issue => .ok (some issue)
  | .error reason => .error (.publishFailed draft.storyId reason)

/-- Opening an issue for a draft. Only the peer can be reached. -/
def create (t : Tracker) (draft : Draft) (peer : Http.Peer) : Answer × Http.Peer :=
  match t.request? draft with
  | .error reason => (answer draft (.error ("request failed: " ++ reason)), peer)
  | .ok (url, request) =>
    if url.origin = peer.origin then
      let (reply, peer) := peer.receive request
      (answer draft (issueOf url reply), peer)
    else (answer draft (.error (unanswered url)), peer)

def publisher (t : Tracker) : Publisher Http.Peer where
  name := "github"
  isLive := true
  create := t.create

end Tracker

end Backlog
