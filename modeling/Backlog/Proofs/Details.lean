import Backlog.Command
import Backlog.Proofs.Lookup
import Backlog.Proofs.Preview
/-!
A story shown as JSON. Nothing of it is lost: from what is printed, the story is read back as it was
loaded, and with it the draft that a run over the same project sends to the tracker.

- `Command.story_json_plain`, `Command.execute_show`: what is printed;
- `Command.sync_requests`: the requests of a live run, beside the documents it gets to;
- `Command.show_reads_back`: the two command lines.
-/
namespace Backlog
set_option autoImplicit false

open Json

theorem Discrepancy.toJson_plain (d : Discrepancy) : Plain d.toJson := by
  cases d with
  | sprint declared planned =>
    refine record_plain ?_
    simp only [List.forall_mem_cons]
    exact ⟨.string _, .natural _, .natural _, List.forall_mem_nil _⟩
  | category declared planned =>
    refine record_plain ?_
    simp only [List.forall_mem_cons]
    exact ⟨.string _, .string _, .string _, List.forall_mem_nil _⟩

namespace Command

/-! ## What is printed -/

theorem story_json_plain (story : Story) (catalog : Catalog) : Plain (storyJson story catalog) := by
  have discrepancies : Plain (.array ((story.discrepancies catalog).map Discrepancy.toJson)) :=
    array_plain Discrepancy.toJson_plain _
  refine record_plain ?_
  simp only [List.forall_mem_cons]
  exact ⟨Story.form.plain story, (story.draft catalog).toJson_plain, discrepancies,
    List.forall_mem_nil _⟩

theorem execute_show {args : List Text} {w : World} {id : Text} {given : Overrides} {p : Project}
    {path : Text} {story : Story} (asked : Invocation.ofArguments args = .ok ⟨.show id true, given⟩)
    (loaded : Project.load w.storage (given.project.getD w.cwd) given.dir given.repo = .ok p)
    (found : p.shelf.find w.storage id = .ok path) (read : w.storage.load path = .ok story) :
    execute args w =
      ⟨0, (storyJson story p.shelf.catalog).render .indented ++ ['\n'], w.peer⟩ := by
  have shown : details id true p w.storage =
      .ok [(storyJson story p.shelf.catalog).render .indented] := by
    rw [details, found]
    change (w.storage.load path >>= _) = _
    rw [read]
    rfl
  rw [execute_performed asked loaded, perform, shown]
  simp [Finish.ofLast, Finish.exitCode, Finish.output, Console.print]

/-! ## What is sent -/

/-- A live run sends nothing, or one request for each document that it gets to, in order; and each
reads as the draft of its document. -/
theorem sync_requests {p : Project} {w : World} {paths : List Text}
    (found : p.shelf.discover w.storage = .ok paths) :
    ∃ requests : List Http.Request,
      (sync true true p w).peer.received = w.peer.received ++ requests ∧
      (requests = [] ∨ requests.length = (w.storage.reached paths).length) ∧
      ∀ (i : Nat) (request : Http.Request) (path : Text) (story : Story),
        requests[i]? = some request → (w.storage.reached paths)[i]? = some path →
        w.storage.load path = .ok story →
        decode Draft.ofJson? request.body = .ok { story.draft p.shelf.catalog with storyId := [] } := by
  have none_sent (same : (sync true true p w).peer.received = w.peer.received) :
      (sync true true p w).peer.received = w.peer.received ++ [] := by
    rw [same, List.append_nil]
  obtain alone | ⟨-, -, -, t, made⟩ := sync_cases true true p w
  · have same := congrArg (·.peer.received) (alone w.peer)
    exact ⟨[], none_sent same, .inl rfl, fun i request path story h => absurd h (by simp)⟩
  have live := sync_live found made
  obtain ⟨stories, loads, after⟩ := Batch.run_reached t.publisher w.storage found w.peer
  have size := congrArg List.length loads
  rw [List.length_map, List.length_map] at size
  have peer : (sync true true p w).peer =
      t.publisher.after (stories.map (·.draft p.shelf.catalog)) w.peer := by
    rw [live, ← after]
    cases (Batch.run p.shelf w.storage t.publisher w.peer).1 <;> rfl
  obtain ⟨-, alone⟩ | ⟨-, request, reads, sent⟩ := t.after_received w.peer
  · have unasked := congrArg Http.Peer.received (peer.trans (alone _))
    exact ⟨[], none_sent unasked, .inl rfl, fun i request path story h => absurd h (by simp)⟩
  refine ⟨_, peer ▸ sent _, .inr ?_, fun i asked path story there here read => ?_⟩
  · rw [List.length_map, List.length_map, ← size]
  -- The request and the document with one number come from one story.
  have same : stories[i]? = some story := Storage.story_at loads here read
  rw [List.map_map, List.getElem?_map, same] at there
  obtain rfl := Option.some.inj there
  exact reads _

/-! ## The two command lines -/

/-- A story that is found and whose document can be read, shown as JSON. What is printed is one
object. Its record reads as the story that is loaded, and its issue reads as the draft without the
identifier, as does every request that a tracker forms for the draft. A live run over the same project
asks the peer for nothing, or once for each document that it gets to; and what it sends for this one
reads as the same draft. -/
theorem show_reads_back {args : List Text} {w : World} {id : Text} {given : Overrides} {p : Project}
    {path content : Text} (asked : Invocation.ofArguments args = .ok ⟨.show id true, given⟩)
    (loaded : Project.load w.storage (given.project.getD w.cwd) given.dir given.repo = .ok p)
    (found : p.shelf.find w.storage id = .ok path) (readable : w.storage.read path = .ok content) :
    ∃ (story : Story) (record issue : Json) (paths : List Text),
      let shown : Draft := { story.draft p.shelf.catalog with storyId := [] }
      w.storage.load path = .ok story ∧ (execute args w).exitCode = 0 ∧
      parse? (execute args w).output =
        some (.record [("record", record), ("issue", issue),
          ("discrepancies", .array ((story.discrepancies p.shelf.catalog).map
            Discrepancy.toJson))]) ∧
      Story.ofJson? record = some story ∧ Draft.ofJson? issue = some shown ∧
      (∀ (t : Tracker) (url : Http.Url) (request : Http.Request),
        t.request? (story.draft p.shelf.catalog) = .ok (url, request) →
          decode Draft.ofJson? request.body = .ok shown) ∧
      p.shelf.discover w.storage = .ok paths ∧ path ∈ paths ∧
      ∀ liveArgs : List Text, Invocation.ofArguments liveArgs = .ok ⟨.sync true true, given⟩ →
        ∃ requests : List Http.Request,
          (execute liveArgs w).peer.received = w.peer.received ++ requests ∧
          (requests = [] ∨ requests.length = (w.storage.reached paths).length) ∧
          ∀ (i : Nat) (request : Http.Request), requests[i]? = some request →
            (w.storage.reached paths)[i]? = some path →
            decode Draft.ofJson? request.body = .ok shown := by
  obtain ⟨paths, listed, inside⟩ := Shelf.find_ok found
  have read : w.storage.load path = .ok (Document.read (Path.storyId path) content) := by
    rw [Storage.load, readable]
  set story := Document.read (Path.storyId path) content
  have printed := execute_show asked loaded found read
  have line : OnlySpace ['\n'] := by
    intro c inside
    rw [List.mem_singleton.1 inside]
    rfl
  refine ⟨story, story.toJson, (story.draft p.shelf.catalog).toJson, paths, read,
    congrArg Result.exitCode printed, ?_, Story.form.reads story, Draft.of_json_toJson _,
    fun t url request formed => Tracker.request_reads formed, listed, inside, fun liveArgs live => ?_⟩
  · rw [printed]
    exact parse_render_space Layout.indented_blank (story_json_plain story p.shelf.catalog) line
  · obtain ⟨requests, sent, size, each⟩ := sync_requests listed
    refine ⟨requests, ?_, size, fun i request there here => each i request path story there here read⟩
    rw [execute_sync live loaded, sent]

/-- A document with a quote, a backslash, a control and a text of two lines: what is shown of it and
what is sent for it read as one draft. -/
theorem show_reads_back_escaped :
    let content : Text := "# US-1: \"é\\\n\n## Notes\n\x01a\nb"
    let w := oneStory switchedOn content
    let showArgs : List Text := ["--dir", "d", "show", "us-1", "--json"]
    let liveArgs : List Text := ["--dir", "d", "sync", "--no-dry-run", "-y"]
    ∃ (story : Story) (record issue discrepancies : Json) (shown : Draft) (request : Http.Request),
      story.title = "\"é\\" ∧ story.text .notes = "\x01a\nb" ∧
      parse? (execute showArgs w).output =
        some (.record [("record", record), ("issue", issue), ("discrepancies", discrepancies)]) ∧
      Story.ofJson? record = some story ∧ Draft.ofJson? issue = some shown ∧
      (execute liveArgs w).peer.received = [request] ∧
      decode Draft.ofJson? request.body = .ok shown := by
  intro content w showArgs liveArgs
  let path : Text := "p/d/US-1.md"
  let given : Overrides := ⟨none, some "d", none⟩
  let p : Project := ⟨"p", { switchedOn with storiesDir := "d" }⟩
  have asked : Invocation.ofArguments showArgs = .ok ⟨.show "us-1" true, given⟩ := by decide +kernel
  have asksLive : Invocation.ofArguments liveArgs = .ok ⟨.sync true true, given⟩ := by
    decide +kernel
  have configured : Config.load w.storage "p" = .ok switchedOn := one_story_configured _ _
  have loaded : Project.load w.storage (given.project.getD w.cwd) given.dir given.repo = .ok p :=
    Project.load_configured configured given.dir given.repo
  have only : p.shelf.discover w.storage = .ok [path] := by decide +kernel
  have found : p.shelf.find w.storage "us-1" = .ok path := by
    rw [Shelf.find_discovered only]
    rfl
  have reached : (w.storage.reached [path])[0]? = some path := by rfl
  have opened : w.storage.load path = .ok (Document.read (Path.storyId path) content) := rfl
  have sends_one : (execute liveArgs w).peer.received.length = 1 := by decide +kernel
  obtain ⟨story, record, issue, paths, read, -, printed, kept, drafted, -, listed, -, live⟩ :=
    show_reads_back asked loaded found (show w.storage.read path = .ok content from rfl)
  obtain rfl := Except.ok.inj (opened.symm.trans read)
  obtain rfl := Except.ok.inj (only.symm.trans listed)
  obtain ⟨requests, sent, -, each⟩ := live liveArgs asksLive
  have start : w.peer.received = [] := rfl
  rw [start, List.nil_append] at sent
  rw [sent] at sends_one
  obtain ⟨request, rfl⟩ := List.length_eq_one_iff.1 sends_one
  exact ⟨_, record, issue, _, _, request, by decide +kernel, by decide +kernel, printed, kept,
    drafted, sent, each 0 request rfl reached⟩

end Command

end Backlog
