import Backlog.Batch
import Backlog.Proofs.Discovery
/-!
What a run over a shelf does, document by document, for every publisher. The documents before the
first unreadable one are drafted and handed over in order, whatever is answered; each report stands
beside its draft and its answer.

- `Publisher.answers`, `Publisher.after`: drafts handed over one after the other;
- `Publisher.untouched`: drafts that leave the state as it is;
- `Publisher.recorded`: a publisher that also keeps what it is handed;
- `Batch.publish_append`: readable documents in front of others;
- `Batch.Tells`: a report that tells of a draft and its answer.
-/
namespace Backlog
set_option autoImplicit false

variable {σ : Type}

/-- What two lists make side by side, seen where only the first one shows. -/
theorem map_zip_with_left {α β γ δ : Type} {f : α → β → γ} {view : γ → δ} {g : α → δ}
    (same : ∀ a b, view (f a b) = g a) {as : List α} {bs : List β} (h : as.length ≤ bs.length) :
    (List.zipWith f as bs).map view = as.map g := by
  calc (List.zipWith f as bs).map view
      = ((as.zip bs).map Prod.fst).map g := by
        rw [List.map_zipWith, ← List.map_uncurry_zip_eq_zipWith, List.map_map]
        exact List.map_congr_left fun pair _ => same pair.1 pair.2
    _ = as.map g := by rw [List.map_fst_zip h]

/-! ## Drafts handed over -/

namespace Publisher

/-- The answers to drafts handed over one after the other. -/
def answers (publisher : Publisher σ) : List Draft → σ → List Answer
  | [], _ => []
  | draft :: drafts, state =>
    (publisher.create draft state).1 :: answers publisher drafts (publisher.create draft state).2

/-- The state after drafts handed over one after the other. -/
def after (publisher : Publisher σ) (drafts : List Draft) (state : σ) : σ :=
  drafts.foldl (fun state draft => (publisher.create draft state).2) state

/-- The publisher that also keeps the drafts it is handed, in order. -/
def recorded (publisher : Publisher σ) : Publisher (σ × List Draft) where
  name := publisher.name
  isLive := publisher.isLive
  create := fun draft state =>
    ((publisher.create draft state.1).1, (publisher.create draft state.1).2, state.2 ++ [draft])

variable (publisher : Publisher σ)

theorem answers_length (drafts : List Draft) (state : σ) :
    (publisher.answers drafts state).length = drafts.length := by
  induction drafts generalizing state with
  | nil => rfl
  | cons draft drafts ih => rw [answers, List.length_cons, ih, List.length_cons]

theorem answers_recorded (drafts : List Draft) (state : σ × List Draft) :
    publisher.recorded.answers drafts state = publisher.answers drafts state.1 := by
  induction drafts generalizing state with
  | nil => rfl
  | cons draft drafts ih =>
    rw [answers, ih]
    rfl

theorem after_recorded (drafts : List Draft) (state : σ × List Draft) :
    publisher.recorded.after drafts state =
      (publisher.after drafts state.1, state.2 ++ drafts) := by
  induction drafts generalizing state with
  | nil => simp [after]
  | cons draft drafts ih =>
    have step := ih (publisher.recorded.create draft state).2
    simp only [after, List.foldl_cons] at step ⊢
    rw [step]
    simp [recorded]

/-- A state in which each draft is answered without a change stays as it is. -/
theorem untouched {state : σ} {answer : Draft → Answer}
    (h : ∀ draft : Draft, publisher.create draft state = (answer draft, state))
    (drafts : List Draft) :
    publisher.after drafts state = state ∧ publisher.answers drafts state = drafts.map answer := by
  induction drafts with
  | nil => exact ⟨rfl, rfl⟩
  | cons draft drafts ih =>
    constructor
    · rw [after, List.foldl_cons, h]
      exact ih.1
    · rw [answers, h, List.map_cons]
      exact congrArg _ ih.2

end Publisher

namespace Batch

/-! ## Runs -/

variable (publisher : Publisher σ) (catalog : Catalog) (storage : Storage)

theorem publish_error {path : Text} {e : StoryError} (h : storage.load path = .error e)
    (later : List Text) (state : σ) :
    publish publisher catalog storage (path :: later) state = (.error e, state) := by
  rw [publish, h]

theorem publish_ok {path : Text} {story : Story} (h : storage.load path = .ok story)
    (later : List Text) (state : σ) :
    publish publisher catalog storage (path :: later) state =
      (publish publisher catalog storage later (publisher.create (story.draft catalog) state).2).map
        (Except.map (reportOf catalog story (publisher.create (story.draft catalog) state).1 :: ·))
        id := by
  rw [publish, h]
  generalize hr : publish publisher catalog storage later
    (publisher.create (story.draft catalog) state).2 = rest
  obtain ⟨result, final⟩ := rest
  cases result <;> simp [hr, Except.map]

theorem map_map_reports (first second : List StoryReport) (x : Except StoryError (List StoryReport)) :
    (x.map (second ++ ·)).map (first ++ ·) = x.map (first ++ second ++ ·) := by
  cases x <;> simp [Except.map]

/-- Readable documents in front of others: their reports come first, and the others are met with
the publisher as it is after their drafts. -/
theorem publish_append {ready : List Text} {stories : List Story}
    (h : ready.map storage.load = stories.map .ok) (later : List Text) (state : σ) :
    publish publisher catalog storage (ready ++ later) state =
      (publish publisher catalog storage later
          (publisher.after (stories.map (·.draft catalog)) state)).map
        (Except.map (List.zipWith (reportOf catalog) stories
          (publisher.answers (stories.map (·.draft catalog)) state) ++ ·)) id := by
  induction ready generalizing stories state with
  | nil =>
    obtain rfl : stories = [] := List.map_eq_nil_iff.1 h.symm
    generalize hr : publish publisher catalog storage later state = rest
    obtain ⟨result, final⟩ := rest
    cases result <;> simp [hr, Publisher.after, Except.map]
  | cons path ready ih =>
    cases stories with
    | nil => exact absurd h (by simp)
    | cons story stories =>
      rw [List.map_cons, List.map_cons] at h
      obtain ⟨first, rest⟩ := List.cons.inj h
      rw [List.cons_append, publish_ok publisher catalog storage first, ih rest]
      exact Prod.ext (map_map_reports [_] _ _) rfl

theorem run_undiscovered {shelf : Shelf} {e : StoryError} (h : shelf.discover storage = .error e)
    (state : σ) : run shelf storage publisher state = (.error e, state) := by
  rw [run, h]

theorem run_discovered {shelf : Shelf} {paths : List Text}
    (h : shelf.discover storage = .ok paths) (state : σ) :
    run shelf storage publisher state =
      (publish publisher shelf.catalog storage paths state).map
        (Except.map fun reports =>
          ⟨reports, Shelf.countAll shelf.catalog (reports.map (·.id))⟩) id := by
  rw [run, h]
  generalize hr : publish publisher shelf.catalog storage paths state = rest
  obtain ⟨result, final⟩ := rest
  cases result <;> simp [hr, Except.map]

/-- Recording changes neither the result of a run nor the publisher's own state. -/
theorem publish_recorded (paths : List Text) (state : σ × List Draft) :
    (publish publisher.recorded catalog storage paths state).map id Prod.fst =
      publish publisher catalog storage paths state.1 := by
  induction paths generalizing state with
  | nil => rfl
  | cons path paths ih =>
    cases h : storage.load path with
    | error e =>
      rw [publish_error publisher.recorded catalog storage h, publish_error publisher catalog storage h]
      rfl
    | ok story =>
      rw [publish_ok publisher.recorded catalog storage h, publish_ok publisher catalog storage h]
      have step : _ = publish publisher catalog storage paths
          (publisher.create (story.draft catalog) state.1).2 :=
        ih (publisher.recorded.create (story.draft catalog) state).2
      rw [← step]
      rfl

theorem run_recorded (shelf : Shelf) (state : σ × List Draft) :
    (run shelf storage publisher.recorded state).map id Prod.fst =
      run shelf storage publisher state.1 := by
  cases h : shelf.discover storage with
  | error e =>
    rw [run_undiscovered publisher.recorded storage h, run_undiscovered publisher storage h]
    rfl
  | ok paths =>
    rw [run_discovered publisher.recorded storage h, run_discovered publisher storage h,
      ← publish_recorded]
    rfl

/-- All documents are readable: each is drafted and handed over, whatever is answered before. -/
theorem run_readable {shelf : Shelf} {paths : List Text} {stories : List Story}
    (found : shelf.discover storage = .ok paths) (h : paths.map storage.load = stories.map .ok)
    (state : σ) :
    let reports := List.zipWith (reportOf shelf.catalog) stories
      (publisher.answers (stories.map (·.draft shelf.catalog)) state)
    run shelf storage publisher state =
      (.ok ⟨reports, Shelf.countAll shelf.catalog (reports.map (·.id))⟩,
        publisher.after (stories.map (·.draft shelf.catalog)) state) := by
  intro reports
  have all := publish_append publisher shelf.catalog storage h [] state
  rw [List.append_nil] at all
  rw [run_discovered publisher storage found, all]
  simp [publish, Except.map, reports]

/-- The run ends at the first document that cannot be read, after the drafts before it. -/
theorem run_unreadable {shelf : Shelf} {ready later : List Text} {path : Text} {stories : List Story}
    {e : StoryError} (found : shelf.discover storage = .ok (ready ++ path :: later))
    (h : ready.map storage.load = stories.map .ok) (unreadable : storage.load path = .error e)
    (state : σ) :
    run shelf storage publisher state =
      (.error e, publisher.after (stories.map (·.draft shelf.catalog)) state) := by
  rw [run_discovered publisher storage found,
    publish_append publisher shelf.catalog storage h, publish_error _ _ _ unreadable]
  rfl

theorem load_unreadable {path : Text} {fault : ReadFault} (h : storage.read path = .error fault) :
    storage.load path = .error (.fileUnreadable path fault.message) := by
  rw [Storage.load, h]
  rfl

theorem load_all_unreadable {shelf : Shelf} {ready later : List Text} {path : Text}
    {stories : List Story} {e : StoryError}
    (found : shelf.discover storage = .ok (ready ++ path :: later))
    (h : ready.map storage.load = stories.map .ok) (unreadable : storage.load path = .error e) :
    shelf.loadAll storage = .error e := by
  have stop : Shelf.loadPaths storage (ready ++ path :: later) = .error e := by
    clear found
    induction ready generalizing stories with
    | nil =>
      rw [List.nil_append, Shelf.loadPaths, unreadable]
      rfl
    | cons first ready ih =>
      cases stories with
      | nil => exact absurd h (by simp)
      | cons story stories =>
        rw [List.map_cons, List.map_cons] at h
        obtain ⟨front, rest⟩ := List.cons.inj h
        rw [List.cons_append, Shelf.loadPaths, front, ih rest]
        rfl
  rw [Shelf.loadAll, found]
  exact stop

/-! ## Reports -/

/-- A report that tells of a story's draft and of the answer to it. -/
structure Tells (catalog : Catalog) (story : Story) (answer : Answer) (report : StoryReport) :
    Prop where
  id : report.id = (story.draft catalog).storyId
  issueTitle : report.issueTitle = (story.draft catalog).title
  labels : report.labels = (story.draft catalog).labels
  complete : report.complete = catalog.isComplete story.id
  bodyLength : report.bodyLength = (Text.utf8 (story.draft catalog).body).length
  discrepancies : report.discrepancies = story.discrepancies catalog
  created : ∀ issue : Issue, answer = .ok (some issue) → report.outcome = .created issue
  dryRun : answer = .ok none → report.outcome = .dryRun
  failed : ∀ e : StoryError, answer = .error e → report.outcome = .failed e.message

theorem tells_report (story : Story) (answer : Answer) :
    Tells catalog story answer (reportOf catalog story answer) where
  id := rfl
  issueTitle := rfl
  labels := rfl
  complete := rfl
  bodyLength := rfl
  discrepancies := rfl
  created := by rintro issue rfl; rfl
  dryRun := by rintro rfl; rfl
  failed := by rintro e rfl; rfl

theorem failures_of_answers {stories : List Story} {answers : List Answer}
    (h : stories.length = answers.length) :
    ((List.zipWith (reportOf catalog) stories answers).filter (·.outcome.isFailure)).length =
      (answers.filter fun answer => !answer.isOk).length := by
  have one (story : Story) (answer : Answer) :
      (reportOf catalog story answer).outcome.isFailure = !answer.isOk := by
    rcases answer with e | (_ | issue) <;> rfl
  induction stories generalizing answers with
  | nil =>
    obtain rfl : answers = [] := List.eq_nil_of_length_eq_zero h.symm
    rfl
  | cons story stories ih =>
    cases answers with
    | nil => exact absurd h (by simp)
    | cons answer answers =>
      have tails := ih (Nat.succ.inj h)
      rw [List.zipWith_cons_cons, List.filter_cons, List.filter_cons, one]
      split
      next => rw [List.length_cons, List.length_cons, tails]
      next => exact tails

theorem tells_each (stories : List Story) (state : σ) {i : Nat} {story : Story}
    (h : stories[i]? = some story) :
    ∃ answer told,
      (publisher.answers (stories.map (·.draft catalog)) state)[i]? = some answer ∧
        (List.zipWith (reportOf catalog) stories
          (publisher.answers (stories.map (·.draft catalog)) state))[i]? = some told ∧
        Tells catalog story answer told := by
  have inside : i < (publisher.answers (stories.map (·.draft catalog)) state).length := by
    rw [Publisher.answers_length, List.length_map]
    exact (List.getElem?_eq_some_iff.1 h).1
  have ha := List.getElem?_eq_getElem inside
  refine ⟨_, _, ha, ?_, tells_report catalog story _⟩
  rw [List.getElem?_zipWith, h, ha]

/-- A run, seen through a publisher that keeps what it is handed. Nothing is handed over when the
shelf cannot be listed. When all documents are readable, their drafts are handed over in order and
each report stands with its document and the answer to its draft. At the first document that cannot
be read the run ends with the error of loading it, after the drafts before it. -/
theorem run_document_by_document (shelf : Shelf) (state : σ) :
    let recording := run shelf storage publisher.recorded (state, [])
    let draft := fun story : Story => story.draft shelf.catalog
    recording.map id Prod.fst = run shelf storage publisher state ∧
      (∀ e : StoryError, shelf.discover storage = .error e →
        recording.1 = .error e ∧ recording.2.2 = []) ∧
      (∀ (paths : List Text) (stories : List Story), shelf.discover storage = .ok paths →
        paths.map storage.load = stories.map .ok →
        let answers := publisher.answers (stories.map draft) state
        ∃ report : Report, recording.1 = .ok report ∧ recording.2.2 = stories.map draft ∧
          report.stories.length = paths.length ∧
          (∀ (i : Nat) (story : Story), stories[i]? = some story → ∃ answer told,
            answers[i]? = some answer ∧ report.stories[i]? = some told ∧
              Tells shelf.catalog story answer told) ∧
          report.failures = (answers.filter fun answer => !answer.isOk).length) ∧
      ∀ (ready later : List Text) (path : Text) (stories : List Story) (fault : ReadFault),
        shelf.discover storage = .ok (ready ++ path :: later) →
        ready.map storage.load = stories.map .ok → storage.read path = .error fault →
        recording.1 = .error (.fileUnreadable path fault.message) ∧
          shelf.loadAll storage = .error (.fileUnreadable path fault.message) ∧
          recording.2.2 = stories.map draft := by
  intro recording draft
  refine ⟨run_recorded publisher storage shelf (state, []), ?_, ?_, ?_⟩
  · intro e h
    have hr : recording = (.error e, state, []) := run_undiscovered publisher.recorded storage h _
    exact ⟨congrArg Prod.fst hr, congrArg (·.2.2) hr⟩
  · intro paths stories found h answers
    have hr := run_readable publisher.recorded storage found h (state, [])
    dsimp only at hr
    rw [Publisher.answers_recorded, Publisher.after_recorded] at hr
    have size : stories.length = answers.length := by
      rw [Publisher.answers_length, List.length_map]
    have count : paths.length = stories.length := by
      rw [← List.length_map storage.load, h, List.length_map]
    refine ⟨_, congrArg Prod.fst hr, congrArg (·.2.2) hr, ?_, ?_, ?_⟩
    · dsimp only
      rw [List.length_zipWith, ← size, count, Nat.min_self]
    · exact fun i story hi => tells_each publisher shelf.catalog stories state hi
    · exact failures_of_answers shelf.catalog size
  · intro ready later path stories fault found h unreadable
    have load := load_unreadable storage unreadable
    have hr := run_unreadable publisher.recorded storage found h load (state, [])
    rw [Publisher.after_recorded] at hr
    exact ⟨congrArg Prod.fst hr, load_all_unreadable storage found h load, congrArg (·.2.2) hr⟩

/-- A directory with two documents and a link, listed out of order. One of them may be unreadable. -/
def twoDocuments (unreadable : Text) : Storage where
  list := fun dir =>
    if dir = "d" then
      .ok [⟨Text.utf8 "US-2-b.md", .file⟩, ⟨Text.utf8 "US-3.md", .link⟩,
        ⟨Text.utf8 "US-1.md", .file⟩]
    else .error .noDirectory
  read := fun path => if path = unreadable then .error .notText else .ok "# US-1: x\n\n## Notes\ny"

theorem two_documents_discovered (unreadable : Text) :
    Shelf.discover ⟨"d", "US", Catalog.empty⟩ (twoDocuments unreadable) =
      .ok ["d/US-1.md", "d/US-2-b.md"] := by
  have lists : (twoDocuments unreadable).Lists "d" [⟨Text.utf8 "US-2-b.md", .file⟩,
      ⟨Text.utf8 "US-3.md", .link⟩, ⟨Text.utf8 "US-1.md", .file⟩] := ⟨rfl, by simp⟩
  exact Shelf.discover_in_order ["US-1.md", "US-2-b.md"] lists (by decide) (by decide)

/-- The first issue is refused and the second opened; then the second document is unreadable; then
the directory is missing. -/
theorem run_document_by_document_refused :
    let start : Publisher.Script × List Draft :=
      (⟨[some (.failure "full"), some (.opened ⟨7, "u"⟩)], []⟩, [])
    (∃ report : Report,
      (run ⟨"d", "US", Catalog.empty⟩ (twoDocuments []) Publisher.scripted.recorded start).1 =
          .ok report ∧ report.stories.length = 2 ∧ report.failures = 1) ∧
      (run ⟨"d", "US", Catalog.empty⟩ (twoDocuments "d/US-2-b.md") Publisher.scripted.recorded
          start).1 =
        .error (.fileUnreadable "d/US-2-b.md" "stream did not contain valid UTF-8") ∧
      (run ⟨"e", "US", Catalog.empty⟩ (twoDocuments []) Publisher.scripted.recorded start).1 =
        .error (.directoryNotFound "e") := by
  intro start
  obtain ⟨report, ran, -, size, -, failures⟩ :=
    (run_document_by_document Publisher.scripted (twoDocuments []) ⟨"d", "US", Catalog.empty⟩
      start.1).2.2.1 ["d/US-1.md", "d/US-2-b.md"]
      [Document.read (Path.storyId "d/US-1.md") "# US-1: x\n\n## Notes\ny",
        Document.read (Path.storyId "d/US-2-b.md") "# US-1: x\n\n## Notes\ny"]
      (two_documents_discovered []) rfl
  have stop := (run_document_by_document Publisher.scripted (twoDocuments "d/US-2-b.md")
    ⟨"d", "US", Catalog.empty⟩ start.1).2.2.2 ["d/US-1.md"] [] "d/US-2-b.md"
    [Document.read (Path.storyId "d/US-1.md") "# US-1: x\n\n## Notes\ny"] .notText
    (two_documents_discovered _) rfl rfl
  have missing := (run_document_by_document Publisher.scripted (twoDocuments [])
    ⟨"e", "US", Catalog.empty⟩ start.1).2.1 (.directoryNotFound "e") rfl
  exact ⟨⟨report, ran, size, failures⟩, stop.1, missing.1⟩

end Batch

end Backlog
