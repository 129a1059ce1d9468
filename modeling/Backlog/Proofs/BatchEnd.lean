import Mathlib.Data.List.TakeWhile
import Backlog.Proofs.BatchRun
/-!
How a run over a shelf ends. The documents of a shelf can all be read, or there is a first one that
cannot: the run succeeds in the one case and fails in the other. A failed run takes nothing back, so
that what has been handed over are the drafts of the documents before the one that ended it.

- `Storage.readable_or_fault`: the two cases;
- `Storage.reached`: the documents that a run gets to;
- `Batch.run_ok_readable`, `Batch.run_error_cases`: what the end of a run tells of its documents.
-/
namespace Backlog
set_option autoImplicit false

variable {σ : Type}

/-! ## The first fault -/

namespace Storage

theorem load_error {storage : Storage} {path : Text} {e : StoryError}
    (h : storage.load path = .error e) :
    ∃ fault : ReadFault, storage.read path = .error fault ∧
      e = .fileUnreadable path fault.message := by
  unfold load at h
  cases hr : storage.read path with
  | error fault =>
    rw [hr] at h
    exact ⟨fault, rfl, (Except.error.inj h).symm⟩
  | ok content =>
    rw [hr] at h
    exact absurd h (by simp)

/-- Documents can all be read, or there is a first one that cannot. -/
theorem readable_or_fault (storage : Storage) (paths : List Text) :
    (∃ stories : List Story, paths.map storage.load = stories.map .ok) ∨
      ∃ (ready later : List Text) (path : Text) (stories : List Story) (fault : ReadFault),
        paths = ready ++ path :: later ∧ ready.map storage.load = stories.map .ok ∧
          storage.read path = .error fault := by
  induction paths with
  | nil => exact .inl ⟨[], rfl⟩
  | cons first paths ih =>
    cases h : storage.load first with
    | error e =>
      obtain ⟨fault, hf, -⟩ := load_error h
      exact .inr ⟨[], paths, first, [], fault, rfl, rfl, hf⟩
    | ok story =>
      obtain ⟨stories, all⟩ | ⟨ready, later, path, stories, fault, rfl, before, hf⟩ := ih
      · exact .inl ⟨story :: stories, by rw [List.map_cons, List.map_cons, h, all]⟩
      · refine .inr ⟨first :: ready, later, path, story :: stories, fault, rfl, ?_, hf⟩
        rw [List.map_cons, List.map_cons, h, before]

/-- The documents before the first that cannot be read. -/
def reached (storage : Storage) (paths : List Text) : List Text :=
  paths.takeWhile fun path => (storage.load path).isOk

theorem loads_of_stories {storage : Storage} {paths : List Text} {stories : List Story}
    (h : paths.map storage.load = stories.map .ok) :
    ∀ path ∈ paths, (storage.load path).isOk = true := by
  intro path inside
  have made : storage.load path ∈ stories.map Except.ok := h ▸ List.mem_map_of_mem inside
  obtain ⟨story, -, same⟩ := List.mem_map.1 made
  rw [← same]
  rfl

theorem story_at {storage : Storage} {paths : List Text} {stories : List Story}
    (h : paths.map storage.load = stories.map .ok) {i : Nat} {path : Text} {story : Story}
    (here : paths[i]? = some path) (read : storage.load path = .ok story) :
    stories[i]? = some story := by
  have loaded : (stories.map .ok : List (Except StoryError Story))[i]? = some (.ok story) := by
    rw [← h, List.getElem?_map, here, Option.map_some, read]
  rw [List.getElem?_map] at loaded
  obtain ⟨other, hi, same⟩ := Option.map_eq_some_iff.1 loaded
  rw [hi, Except.ok.inj same]

theorem reached_front (storage : Storage) {ready later : List Text} {path : Text}
    {stories : List Story} {e : StoryError} (h : ready.map storage.load = stories.map .ok)
    (unreadable : storage.load path = .error e) :
    storage.reached (ready ++ path :: later) = ready := by
  have stop : ¬ (storage.load path).isOk = true := by simp [unreadable, Except.isOk, Except.toBool]
  rw [reached, List.takeWhile_append_of_pos (loads_of_stories h), List.takeWhile_cons, if_neg stop,
    List.append_nil]

theorem reached_all (storage : Storage) {paths : List Text} {stories : List Story}
    (h : paths.map storage.load = stories.map .ok) : storage.reached paths = paths :=
  List.takeWhile_eq_self_iff.2 (loads_of_stories h)

end Storage

namespace Batch

/-! ## Ends of runs -/

variable (publisher : Publisher σ) (storage : Storage)

theorem run_ok_readable {shelf : Shelf} {state final : σ} {report : Report}
    (h : run shelf storage publisher state = (.ok report, final)) :
    ∃ (paths : List Text) (stories : List Story), shelf.discover storage = .ok paths ∧
      paths.map storage.load = stories.map .ok := by
  cases found : shelf.discover storage with
  | error e =>
    rw [run_undiscovered publisher storage found] at h
    exact absurd (congrArg Prod.fst h) (by simp)
  | ok paths =>
    obtain ⟨stories, all⟩ | ⟨ready, later, path, stories, fault, rfl, before, hf⟩ :=
      storage.readable_or_fault paths
    · exact ⟨paths, stories, rfl, all⟩
    · rw [run_unreadable publisher storage found before (load_unreadable storage hf)] at h
      exact absurd (congrArg Prod.fst h) (by simp)

/-- Whatever comes behind, the publisher is left after the drafts of the documents that can be read
before the first that cannot. -/
theorem run_reached {shelf : Shelf} {paths : List Text} (found : shelf.discover storage = .ok paths)
    (state : σ) :
    ∃ stories : List Story, (storage.reached paths).map storage.load = stories.map .ok ∧
      (run shelf storage publisher state).2 =
        publisher.after (stories.map (·.draft shelf.catalog)) state := by
  obtain ⟨stories, all⟩ | ⟨ready, later, path, stories, fault, rfl, before, hf⟩ :=
    storage.readable_or_fault paths
  · refine ⟨stories, ?_, ?_⟩
    · rw [storage.reached_all all, all]
    · rw [run_readable publisher storage found all]
  · have unreadable := load_unreadable storage hf
    refine ⟨stories, ?_, ?_⟩
    · rw [storage.reached_front before unreadable, before]
    · rw [run_unreadable publisher storage found before unreadable]

/-- A run fails because the shelf cannot be listed or because of the first document that cannot be
read. In either case the publisher is left after the drafts of the documents before. -/
theorem run_error_cases {shelf : Shelf} {state final : σ} {e : StoryError}
    (h : run shelf storage publisher state = (.error e, final)) :
    (shelf.discover storage = .error e ∧ final = state) ∨
      ∃ (ready later : List Text) (path : Text) (stories : List Story) (fault : ReadFault),
        shelf.discover storage = .ok (ready ++ path :: later) ∧
          ready.map storage.load = stories.map .ok ∧ storage.read path = .error fault ∧
          e = .fileUnreadable path fault.message ∧
          final = publisher.after (stories.map (·.draft shelf.catalog)) state := by
  cases found : shelf.discover storage with
  | error e' =>
    rw [run_undiscovered publisher storage found] at h
    obtain ⟨he, rfl⟩ := Prod.mk.inj h
    rw [Except.error.inj he]
    exact .inl ⟨rfl, rfl⟩
  | ok paths =>
    obtain ⟨stories, all⟩ | ⟨ready, later, path, stories, fault, rfl, before, hf⟩ :=
      storage.readable_or_fault paths
    · rw [run_readable publisher storage found all] at h
      exact absurd (congrArg Prod.fst h) (by simp)
    · rw [run_unreadable publisher storage found before (load_unreadable storage hf)] at h
      obtain ⟨he, rfl⟩ := Prod.mk.inj h
      exact .inr ⟨ready, later, path, stories, fault, rfl, before, hf, (Except.error.inj he).symm, rfl⟩

/-- A failed run has handed over the drafts of the documents before the first that cannot be read,
in order, and none when the shelf cannot be listed. So something has been handed over exactly when
the first document can be read. A repeated run fails likewise and hands the same drafts over again.
-/
theorem failed_run_hands_over (shelf : Shelf) (state final : σ) (e : StoryError)
    (failed : run shelf storage publisher state = (.error e, final)) :
    ∃ handed : List Draft,
      run shelf storage publisher.recorded (state, []) = (.error e, final, handed) ∧
      (shelf.discover storage = .error e ∧ handed = [] ∨
        ∃ (ready later : List Text) (path : Text) (stories : List Story) (fault : ReadFault),
          shelf.discover storage = .ok (ready ++ path :: later) ∧
            ready.map storage.load = stories.map .ok ∧ storage.read path = .error fault ∧
            e = .fileUnreadable path fault.message ∧
            handed = stories.map (·.draft shelf.catalog)) ∧
      (handed ≠ [] ↔ ∃ (first : Text) (later : List Text) (story : Story),
        shelf.discover storage = .ok (first :: later) ∧ storage.load first = .ok story) ∧
      run shelf storage publisher.recorded (final, handed) =
        (.error e, publisher.after handed final, handed ++ handed) := by
  obtain ⟨found, rfl⟩ | ⟨ready, later, path, stories, fault, found, before, hf, rfl, rfl⟩ :=
    run_error_cases publisher storage failed
  · have stop := run_undiscovered publisher.recorded storage found
    refine ⟨[], stop _, .inl ⟨found, rfl⟩, ?_, stop _⟩
    simp [found]
  · have stop := run_unreadable publisher.recorded storage found before (load_unreadable storage hf)
    simp only [Publisher.after_recorded] at stop
    -- Neither the first fault nor the drafts before it depend on the publisher's state.
    refine ⟨_, stop _, .inr ⟨ready, later, path, stories, fault, found, before, hf, rfl, rfl⟩, ?_,
      stop _⟩
    rw [found]
    cases ready with
    | nil =>
      obtain rfl : stories = [] := List.map_eq_nil_iff.1 before.symm
      simp [load_unreadable storage hf]
    | cons first ready =>
      cases stories with
      | nil => exact absurd before (by simp)
      | cons story stories =>
        have h := (List.cons.inj before).1
        simp [h]

/-- The second of two documents is unreadable: the run fails after the draft of the first. -/
theorem run_second_unreadable (state : σ) :
    run ⟨"d", "US", Catalog.empty⟩ (twoDocuments "d/US-2-b.md") publisher state =
      (.error (.fileUnreadable "d/US-2-b.md" "stream did not contain valid UTF-8"),
        publisher.after [(Document.read (Path.storyId "d/US-1.md") "# US-1: x\n\n## Notes\ny").draft
          Catalog.empty] state) := by
  let first : Text := "d/US-1.md"
  let second : Text := "d/US-2-b.md"
  have found : Shelf.discover ⟨"d", "US", Catalog.empty⟩ (twoDocuments second) =
      .ok ([first] ++ second :: []) := two_documents_discovered second
  have before : [first].map (twoDocuments second).load =
      [Document.read (Path.storyId first) "# US-1: x\n\n## Notes\ny"].map .ok := rfl
  exact run_unreadable publisher (twoDocuments second) found before (load_unreadable _ rfl) state

theorem failed_run_hands_over_first :
    let shelf : Shelf := ⟨"d", "US", Catalog.empty⟩
    let start : Publisher.Script := ⟨[some (.opened ⟨7, "u"⟩)], []⟩
    let e : StoryError := .fileUnreadable "d/US-2-b.md" "stream did not contain valid UTF-8"
    (run shelf (twoDocuments "d/US-2-b.md") Publisher.scripted start).1 = .error e ∧
      ∃ (final : Publisher.Script) (handed : List Draft), handed ≠ [] ∧
        run shelf (twoDocuments "d/US-2-b.md") Publisher.scripted.recorded (start, []) =
          (.error e, final, handed) := by
  intro shelf start e
  have failed := run_second_unreadable Publisher.scripted start
  obtain ⟨handed, recorded, -, some_handed, -⟩ := failed_run_hands_over Publisher.scripted
    (twoDocuments "d/US-2-b.md") shelf start _ e failed
  exact ⟨congrArg Prod.fst failed, _, handed,
    some_handed.2 ⟨"d/US-1.md", ["d/US-2-b.md"], _, two_documents_discovered _, rfl⟩, recorded⟩

/-- It is not so that a failed run has handed over nothing. -/
theorem failed_run_not_silent :
    ¬ ∀ (publisher : Publisher Publisher.Script) (storage : Storage) (shelf : Shelf)
      (state : Publisher.Script) (e : StoryError),
      (run shelf storage publisher.recorded (state, [])).1 = .error e →
        (run shelf storage publisher.recorded (state, [])).2.2 = [] := by
  intro h
  have ran := run_second_unreadable Publisher.scripted.recorded
    (⟨[some (.opened ⟨7, "u"⟩)], []⟩, [])
  have silent := h Publisher.scripted (twoDocuments "d/US-2-b.md") ⟨"d", "US", Catalog.empty⟩
    ⟨[some (.opened ⟨7, "u"⟩)], []⟩ _ (congrArg Prod.fst ran)
  rw [ran, Publisher.after_recorded] at silent
  exact absurd silent (by simp)

end Batch

end Backlog
