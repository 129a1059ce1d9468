import Backlog.Proofs.BatchEnd
import Backlog.Proofs.Lookup
import Backlog.Proofs.PlanLabels
/-!
What a run counts. The summary of a run, the summary made from the file names alone, the reports that
are marked as complete and the labels that are handed over all tell of one thing, whether the catalog
lists the identifier as finished.

- `Shelf.count_all_eq`: the summary of identifiers in closed form;
- `StoryReport.FollowsCatalog`: a report whose mark and labels are those of its identifier;
- `Batch.run_counts_agree`: the counts of a run that succeeds.
-/
namespace Backlog
set_option autoImplicit false

/-! ## Finished stories -/

theorem Dict.contains_iff {α : Type} {d : Dict α} {key : Text} :
    d.contains key = true ↔ key ∈ d.keys := by
  have found (es : List (Text × α)) : (find? key es).isSome = true ↔ key ∈ es.map (·.1) := by
    induction es with
    | nil => simp [find?]
    | cons e es ih =>
      rw [find?, List.map_cons, List.mem_cons]
      by_cases h : e.1 = key
      · simp [h]
      · rw [if_neg h, ih]
        have other : key ≠ e.1 := fun same => h same.symm
        simp [other]
  exact found d.entries

theorem Catalog.is_complete_iff {catalog : Catalog} {id : Text} :
    catalog.isComplete id = true ↔ id ∈ catalog.completed.keys := Dict.contains_iff

namespace Shelf

theorem count_story (catalog : Catalog) (s : Summary) (id : Text) :
    count catalog s id =
      ⟨s.total + 1, s.completed + (if catalog.isComplete id then 1 else 0),
        s.notStarted + (if !catalog.isComplete id then 1 else 0)⟩ := by
  unfold count
  cases catalog.isComplete id <;> rfl

theorem count_from (catalog : Catalog) (ids : List Text) (s : Summary) :
    ids.foldl (count catalog) s =
      ⟨s.total + ids.length, s.completed + ids.countP catalog.isComplete,
        s.notStarted + ids.countP fun id => !catalog.isComplete id⟩ := by
  induction ids generalizing s with
  | nil => rfl
  | cons id ids ih =>
    rw [List.foldl_cons, ih, count_story, List.length_cons, List.countP_cons, List.countP_cons]
    simp only [Summary.mk.injEq]
    omega

theorem count_all_eq (catalog : Catalog) (ids : List Text) :
    countAll catalog ids =
      ⟨ids.length, ids.countP catalog.isComplete, ids.countP fun id => !catalog.isComplete id⟩ := by
  have counted := count_from catalog ids ⟨0, 0, 0⟩
  simp only [Nat.zero_add] at counted
  exact counted

theorem count_all_adds (catalog : Catalog) (ids : List Text) :
    (countAll catalog ids).total =
      (countAll catalog ids).completed + (countAll catalog ids).notStarted := by
  have parts := ids.length_eq_countP_add_countP catalog.isComplete
  rw [count_all_eq]
  simpa using parts

theorem summarize_discovered {shelf : Shelf} {storage : Storage} {paths : List Text}
    (found : shelf.discover storage = .ok paths) :
    shelf.summarize storage = .ok (countAll shelf.catalog (paths.map Path.storyId)) := by
  rw [summarize, found]
  rfl

end Shelf

/-! ## Reports -/

/-- A report whose mark and labels are those that the catalog gives its identifier. -/
structure StoryReport.FollowsCatalog (catalog : Catalog) (r : StoryReport) : Prop where
  complete : r.complete = catalog.isComplete r.id
  labels : r.labels = (Labels.derive r.id catalog).toList

namespace StoryReport.FollowsCatalog

variable {catalog : Catalog} {r : StoryReport}

theorem status_label (h : r.FollowsCatalog catalog) (complete : Bool) :
    Labels.status complete ∈ r.labels ↔ r.complete = complete := by
  rw [h.labels, h.complete, Labels.derive, Labels.status_label_iff]
  exact eq_comm

theorem status_once (h : r.FollowsCatalog catalog) :
    r.labels.count (Labels.status true) + r.labels.count (Labels.status false) = 1 := by
  have differ : r.labels.Nodup := by
    rw [h.labels, Labels.derive, Labels.of_plan_rules]
    exact Labels.Rule.all_labels_nodup
  have one (complete : Bool) : r.labels.count (Labels.status complete) =
      if r.complete = complete then 1 else 0 := by
    split
    next same => exact List.count_eq_one_of_mem differ ((h.status_label complete).2 same)
    next other => exact List.count_eq_zero.2 (mt (h.status_label complete).1 other)
  rw [one, one]
  cases r.complete <;> rfl

end StoryReport.FollowsCatalog

namespace Batch

variable {σ : Type}

section Reports
variable {catalog : Catalog} {stories : List Story} {answers : List Answer}

theorem reports_follow :
    ∀ r ∈ List.zipWith (reportOf catalog) stories answers, r.FollowsCatalog catalog := by
  intro r hr
  rw [← List.map_uncurry_zip_eq_zipWith] at hr
  obtain ⟨⟨story, answer⟩, -, rfl⟩ := List.mem_map.1 hr
  exact ⟨rfl, rfl⟩

theorem reports_ids (h : stories.length ≤ answers.length) :
    (List.zipWith (reportOf catalog) stories answers).map (·.id) = stories.map (·.id) := by
  apply map_zip_with_left _ h
  intro story answer
  rfl

theorem reports_labels (h : stories.length ≤ answers.length) :
    (List.zipWith (reportOf catalog) stories answers).map (·.labels) =
      (stories.map (·.draft catalog)).map (·.labels) := by
  rw [List.map_map]
  apply map_zip_with_left _ h
  intro story answer
  rfl

end Reports

/-- The number of finished stories, told by any mark of their reports that follows the catalog. -/
theorem completed_count {catalog : Catalog} {reports : List StoryReport}
    {marked : StoryReport → Bool} (h : ∀ r ∈ reports, marked r = catalog.isComplete r.id) :
    (Shelf.countAll catalog (reports.map (·.id))).completed = (reports.filter marked).length := by
  rw [Shelf.count_all_eq, List.countP_map, ← List.countP_eq_length_filter]
  exact List.countP_congr fun r hr => by rw [h r hr]; rfl

/-- A run that succeeds counts what the file names alone give. The total is the number of reports
and the sum of its two parts, and as many stories are finished as there are reports marked so, and
as many as have been handed over with the label that says so. A report has one of the two labels of
the status, and which one is settled by the finished identifiers of the catalog alone. -/
theorem run_counts_agree {publisher : Publisher σ} {storage : Storage} {shelf : Shelf}
    {state final : σ} {report : Report}
    (h : run shelf storage publisher state = (.ok report, final)) :
    let complete : Text := "status:complete"
    let notStarted : Text := "status:not-started"
    shelf.summarize storage = .ok report.summary ∧
      report.summary.total = report.summary.completed + report.summary.notStarted ∧
      report.summary.total = report.stories.length ∧
      report.summary.completed = (report.stories.filter (·.complete)).length ∧
      report.summary.completed =
        (report.stories.filter fun r => r.labels.contains complete).length ∧
      (∀ r ∈ report.stories, r.labels.count complete + r.labels.count notStarted = 1 ∧
        (complete ∈ r.labels ↔ r.id ∈ shelf.catalog.completed.keys)) ∧
      ∃ handed : List Draft,
        run shelf storage publisher.recorded (state, []) = (.ok report, final, handed) ∧
          handed.map (·.labels) = report.stories.map (·.labels) := by
  intro complete notStarted
  obtain ⟨paths, stories, found, loaded⟩ := run_ok_readable publisher storage h
  have ran := run_readable publisher storage found loaded state
  have recorded := run_readable publisher.recorded storage found loaded (state, [])
  dsimp only at ran recorded
  rw [Publisher.answers_recorded, Publisher.after_recorded] at recorded
  set drafts := stories.map (·.draft shelf.catalog)
  set reports := List.zipWith (reportOf shelf.catalog) stories (publisher.answers drafts state)
  have even : stories.length ≤ (publisher.answers drafts state).length := by
    rw [Publisher.answers_length, List.length_map]
  have ids : reports.map (·.id) = paths.map Path.storyId :=
    (reports_ids even).trans (Shelf.loaded_ids loaded)
  have labels : reports.map (·.labels) = drafts.map (·.labels) := reports_labels even
  have follow : ∀ r ∈ reports, r.FollowsCatalog shelf.catalog := reports_follow
  rw [h] at ran
  obtain ⟨ok, rfl⟩ := Prod.mk.inj ran
  obtain rfl := Except.ok.inj ok
  -- The file names and the reports give one list of identifiers, and each mark follows the catalog.
  refine ⟨?_, Shelf.count_all_adds _ _, ?_, ?_, ?_, ?_, drafts, recorded, labels.symm⟩
  · rw [Shelf.summarize_discovered found, ids]
  · rw [Shelf.count_all_eq, List.length_map]
  · exact completed_count fun r hr => (follow r hr).complete
  · apply completed_count
    intro r hr
    rw [← (follow r hr).complete, Bool.eq_iff_iff, List.contains_iff_mem]
    exact (follow r hr).status_label true
  · intro r hr
    refine ⟨(follow r hr).status_once, ?_⟩
    rw [← Catalog.is_complete_iff, ← (follow r hr).complete]
    exact (follow r hr).status_label true

/-- Two of three documents share a finished identifier, and one more is planned as if its category
were a status. -/
theorem run_counts_agree_shared :
    let plan : Metadata := ⟨some 0, none, some "status:complete"⟩
    let shelf : Shelf := ⟨"d", "US", ⟨TextSet.ofList ["US-1"], Dict.ofList [("US-2", plan)]⟩⟩
    let storage := Shelf.filesNamed ["US-1-a.md", "US-1-b.md", "US-2.md"]
    ∃ report : Report, run shelf storage Publisher.dryRun () = (.ok report, ()) ∧
      report.summary = ⟨3, 2, 1⟩ ∧ (report.stories.filter (·.complete)).length = 2 ∧
      (report.stories.filter fun r => r.labels.contains "status:complete").length = 2 := by
  intro plan shelf storage
  let paths : List Text := ["d/US-1-a.md", "d/US-1-b.md", "d/US-2.md"]
  let read := fun id : Text => Document.read id []
  have found : shelf.discover storage = .ok paths :=
    Shelf.discover_files_named ["US-1-a.md", "US-1-b.md", "US-2.md"] (by decide) (by decide)
      (by decide) _
  have loaded : paths.map storage.load = [read "US-1", read "US-1", read "US-2"].map .ok := rfl
  have ran := run_readable Publisher.dryRun storage found loaded ()
  obtain ⟨summarized, -, -, marked, labelled, -⟩ := run_counts_agree ran
  have counted : shelf.summarize storage = .ok ⟨3, 2, 1⟩ := by
    rw [Shelf.summarize_discovered found]
    rfl
  obtain same := Except.ok.inj (summarized.symm.trans counted)
  rw [same] at marked labelled
  exact ⟨_, ran, same, marked.symm, labelled.symm⟩

end Batch

end Backlog
