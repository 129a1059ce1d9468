import Backlog.Command
import Backlog.Proofs.BatchEnd
import Backlog.Proofs.OptIn
import Backlog.Proofs.TrackerExchange
/-!
A dry run as a preview. What a run tells of a story is fixed before any draft is answered, apart
from the outcome; so a run that opens issues shows what the dry run has shown, with other outcomes, and
asks for the issues that the dry run has announced.

- `Batch.foretold`: what is told of a story before its draft is answered;
- `Batch.run_foretold`: a run that succeeds, beside the dry run over the same shelf;
- `Console.report_lines_of_outcomes`: the lines of reports that differ in their outcomes;
- `Command.dry_run_foretells`: the two command lines.
-/
namespace Backlog
set_option autoImplicit false

variable {σ : Type}

/-! ## Reports before and after the answers -/

/-- A report with an outcome in the place of its own. -/
def StoryReport.ending (r : StoryReport) (outcome : Outcome) : StoryReport :=
  { r with outcome := outcome }

/-- The reports of a dry run with the outcomes of another one. -/
def StoryReport.endings (reports : List StoryReport) (outcomes : List Outcome) : List StoryReport :=
  List.zipWith StoryReport.ending reports outcomes

section Endings
variable {reports : List StoryReport} {outcomes : List Outcome}

theorem endings_length (h : outcomes.length = reports.length) :
    (StoryReport.endings reports outcomes).length = reports.length := by
  rw [StoryReport.endings, List.length_zipWith, h, Nat.min_self]

theorem endings_ids (h : outcomes.length = reports.length) :
    (StoryReport.endings reports outcomes).map (·.id) = reports.map (·.id) := by
  apply map_zip_with_left _ h.ge
  intro r outcome
  rfl

theorem endings_outcomes (h : outcomes.length = reports.length) :
    (StoryReport.endings reports outcomes).map (·.outcome) = outcomes := by
  calc (StoryReport.endings reports outcomes).map (·.outcome)
      = (reports.zip outcomes).map Prod.snd := by
        rw [StoryReport.endings, List.map_zipWith, ← List.map_uncurry_zip_eq_zipWith]
        rfl
    _ = outcomes := List.map_snd_zip h.le

end Endings

namespace Batch

/-- What is told of a story whose draft opens nothing. -/
def foretold (catalog : Catalog) (story : Story) : StoryReport := reportOf catalog story (.ok none)

theorem reports_of_answers (catalog : Catalog) (stories : List Story) (answers : List Answer) :
    List.zipWith (reportOf catalog) stories answers =
      StoryReport.endings (stories.map (foretold catalog)) (answers.map Outcome.ofAnswer) := by
  rw [StoryReport.endings, List.zipWith_map]
  rfl

theorem dry_run_answers (drafts : List Draft) (state : σ) :
    Publisher.dryRun.answers drafts state = drafts.map fun _ => .ok none :=
  (Publisher.dryRun.untouched (fun _ => rfl) drafts).2

theorem reports_dry (catalog : Catalog) (stories : List Story) (state : σ) :
    List.zipWith (reportOf catalog) stories
        (Publisher.dryRun.answers (stories.map (·.draft catalog)) state) =
      stories.map (foretold catalog) := by
  rw [dry_run_answers, List.map_map, List.zipWith_map_right, List.zipWith_self]
  rfl

/-- A run that succeeds, whatever publisher it has, beside the dry run over the same shelf: the same
reports with other outcomes, the same summary, and the publisher has been handed the drafts that the
dry run tells of. -/
theorem run_foretold {publisher : Publisher σ} {storage : Storage} {shelf : Shelf}
    {state final : σ} {report : Report}
    (h : run shelf storage publisher state = (.ok report, final)) :
    ∃ (stories : List Story) (outcomes : List Outcome), outcomes.length = stories.length ∧
      run shelf storage Publisher.dryRun () =
        (.ok ⟨stories.map (foretold shelf.catalog), report.summary⟩, ()) ∧
      report.stories = StoryReport.endings (stories.map (foretold shelf.catalog)) outcomes ∧
      final = publisher.after (stories.map (·.draft shelf.catalog)) state := by
  obtain ⟨paths, stories, found, readable⟩ := run_ok_readable publisher storage h
  have ran := run_readable publisher storage found readable state
  have dry := run_readable Publisher.dryRun storage found readable ()
  dsimp only at ran dry
  set reports := stories.map (foretold shelf.catalog) with told
  set answers := publisher.answers (stories.map (·.draft shelf.catalog)) state with given
  have even : (answers.map Outcome.ofAnswer).length = reports.length := by
    rw [given, told, List.length_map, Publisher.answers_length, List.length_map, List.length_map]
  rw [h, reports_of_answers, ← told, endings_ids even] at ran
  obtain ⟨ok, rfl⟩ := Prod.mk.inj ran
  obtain rfl := Except.ok.inj ok
  refine ⟨stories, answers.map Outcome.ofAnswer, ?_, ?_, rfl, rfl⟩
  · rw [even, told, List.length_map]
  · rw [dry, reports_dry]

end Batch

/-! ## Lines -/

namespace Console

theorem report_lines_of_outcomes {reports : List StoryReport} {outcomes : List Outcome}
    (h : outcomes.length = reports.length) (summary : Summary) :
    reportLines ⟨StoryReport.endings reports outcomes, summary⟩ =
      foundLine reports.length ++
        (List.zipWith (fun r line => blockHead r ++ [line, []]) reports
          (outcomes.map outcomeLine)).flatten ++
        summaryLines summary ++ failureLines (outcomes.filter Outcome.isFailure).length := by
  have blocks : (StoryReport.endings reports outcomes).flatMap storyBlock =
      (List.zipWith (fun r line => blockHead r ++ [line, []]) reports
        (outcomes.map outcomeLine)).flatten := by
    rw [List.flatMap_def, StoryReport.endings, List.map_zipWith, List.zipWith_map_right]
    rfl
  have failures : (Report.mk (StoryReport.endings reports outcomes) summary).failures =
      (outcomes.filter Outcome.isFailure).length := by
    have counted := endings_outcomes h
    rw [Report.failures]
    nth_rewrite 2 [← counted]
    rw [List.filter_map, List.length_map]
    rfl
  rw [reportLines, failures, endings_length h, blocks]

theorem dry_report_lines (reports : List StoryReport) (summary : Summary)
    (dry : ∀ r ∈ reports, r.outcome = .dryRun) :
    reportLines ⟨reports, summary⟩ =
      foundLine reports.length ++
        reports.flatMap (fun r => blockHead r ++ [outcomeLine .dryRun, []]) ++
        summaryLines summary := by
  have blocks : reports.flatMap storyBlock =
      reports.flatMap fun r => blockHead r ++ [outcomeLine .dryRun, []] :=
    List.flatMap_congr fun r inside => by rw [storyBlock, dry r inside]
  have failures : (Report.mk reports summary).failures = 0 := by
    rw [Report.failures, List.length_eq_zero_iff, List.filter_eq_nil_iff]
    intro r inside
    rw [dry r inside]
    decide
  rw [reportLines, failures, blocks]
  exact List.append_nil _

end Console

/-! ## Command lines -/

namespace Command

theorem sync_live {p : Project} {w : World} {paths : List Text} {t : Tracker}
    (found : p.shelf.discover w.storage = .ok paths)
    (made : Tracker.ofSettings p.config.tracker w.environment p.config.repository = .ok t) :
    sync true true p w =
      .ofLast [] (Batch.run p.shelf w.storage t.publisher w.peer).2
        ((Batch.run p.shelf w.storage t.publisher w.peer).1.map Console.reportLines) := by
  rw [sync, found]
  simp only [publish, made, if_true]

/-- A run with the tracker switched on that ends well has come to the end of its batch. -/
theorem sync_ended {p : Project} {w : World} (enabled : p.config.tracker.enabled = true)
    (ended : (sync true true p w).error? = none) :
    ∃ (t : Tracker) (report : Report) (final : Http.Peer),
      Tracker.ofSettings p.config.tracker w.environment p.config.repository = .ok t ∧
        Batch.run p.shelf w.storage t.publisher w.peer = (.ok report, final) ∧
        sync true true p w = ⟨Console.reportLines report, none, final⟩ := by
  cases found : p.shelf.discover w.storage with
  | error e =>
    rw [sync, found] at ended
    exact absurd ended (by simp)
  | ok paths =>
    cases made : Tracker.ofSettings p.config.tracker w.environment p.config.repository with
    | error e =>
      rw [sync, found] at ended
      simp only [publish, made, if_true] at ended
      split at ended
      next refused =>
        obtain rfl := Except.error.inj refused
        rw [Tracker.of_settings_disabled.1 made] at enabled
        exact absurd enabled (by simp)
      next => exact absurd ended (by simp)
      next other => exact absurd other (by simp)
    | ok t =>
      have live := sync_live found made
      cases ran : Batch.run p.shelf w.storage t.publisher w.peer with
      | mk result final =>
        rw [ran] at live
        cases result with
        | error e =>
          rw [live] at ended
          exact absurd ended (by simp [Finish.ofLast, Except.map])
        | ok report => exact ⟨t, report, final, rfl, ran, live⟩

theorem sync_dry {p : Project} {w : World} {yes : Bool} {report : Report}
    (ran : Batch.run p.shelf w.storage Publisher.dryRun () = (.ok report, ())) :
    sync false yes p w = ⟨Console.dryRunBanner ++ Console.reportLines report, none, w.peer⟩ := by
  obtain ⟨paths, stories, found, -⟩ := Batch.run_ok_readable Publisher.dryRun w.storage ran
  rw [sync, found]
  simp only [preview, ran]
  rfl

/-- Two command lines that differ only in what asks for issues, and the live run comes to the end of
its batch. Then so does the dry run, which asks nothing: below its banner it shows the same number,
the same blocks with their own outcome lines, and the same summary. The live run has asked for
nothing, if its tracker does not reach the peer, or once for each block, in order; and then the
title and the labels of a request and the length of its body are the ones in the block. -/
theorem dry_run_foretells {dryArgs liveArgs : List Text} {w : World} {yes : Bool}
    {given : Overrides} {p : Project}
    (asksDry : Invocation.ofArguments dryArgs = .ok ⟨.sync false yes, given⟩)
    (asksLive : Invocation.ofArguments liveArgs = .ok ⟨.sync true true, given⟩)
    (loaded : Project.load w.storage (given.project.getD w.cwd) given.dir given.repo = .ok p)
    (enabled : p.config.tracker.enabled = true)
    (ended : (execute liveArgs w).exitCode = 0) :
    ∃ (t : Tracker) (reports : List StoryReport) (outcomes : List Outcome) (summary : Summary),
      let stroke : Text := List.replicate 80 '='
      let found : List Text := ["Found " ++ Text.decimal reports.length ++ " user story files", []]
      let block := fun (r : StoryReport) (outcome : Text) =>
        [stroke, "Story: " ++ r.id, "Title: " ++ r.issueTitle,
          "Labels: " ++ Text.join ", " r.labels,
          "Status: " ++ (if r.complete then "✅ COMPLETE" else "❌ NOT STARTED" : Text),
          "Body length: " ++ Text.decimal r.bodyLength ++ " bytes"] ++
          r.discrepancies.map (fun d => ("⚠ " : Text) ++ d.message) ++ [outcome, []]
      let closing : List Text :=
        [[], stroke, "Summary:", "- Total stories: " ++ Text.decimal summary.total,
          "- Completed stories: " ++ Text.decimal summary.completed,
          "- Not started stories: " ++ Text.decimal summary.notStarted, stroke]
      let printed := fun lines : List Text => lines.flatMap fun line => line ++ ['\n']
      Tracker.ofSettings p.config.tracker w.environment p.config.repository = .ok t ∧
      outcomes.length = reports.length ∧
      execute dryArgs w =
        ⟨0, printed (Console.dryRunBanner ++ (found ++
          reports.flatMap (fun r => block r "DRY RUN - Would create issue") ++ closing)), w.peer⟩ ∧
      (execute liveArgs w).output =
        printed (found ++ (List.zipWith block reports (outcomes.map Console.outcomeLine)).flatten ++
          closing ++ Console.failureLines (outcomes.filter Outcome.isFailure).length) ∧
      ((¬ t.Reaches w.peer ∧ (execute liveArgs w).peer = w.peer) ∨
        t.Reaches w.peer ∧ ∃ requests : List Http.Request,
          (execute liveArgs w).peer.received = w.peer.received ++ requests ∧
          requests.length = reports.length ∧
          ∀ (i : Nat) (request : Http.Request) (report : StoryReport),
            requests[i]? = some request → reports[i]? = some report →
            ∃ draft : Draft, Json.decode Draft.ofJson? request.body = .ok draft ∧
              report.issueTitle = draft.title ∧ report.labels = draft.labels ∧
              report.bodyLength = (Text.utf8 draft.body).length) := by
  have liveEnd := execute_sync asksLive loaded
  have dryEnd := execute_sync asksDry loaded
  have clean : (sync true true p w).error? = none := by
    rw [liveEnd] at ended
    cases e : (sync true true p w).error? with
    | none => rfl
    | some message => simp [Finish.exitCode, e] at ended
  obtain ⟨t, report, final, made, ran, shown⟩ := sync_ended enabled clean
  obtain ⟨stories, outcomes, even, dry, told, rfl⟩ := Batch.run_foretold ran
  -- The live reports are the foretold ones with other outcomes, under the same summary.
  obtain ⟨told', summary⟩ := report
  dsimp only at told dry
  subst told
  rw [← List.length_map (Batch.foretold p.shelf.catalog)] at even
  rw [liveEnd, dryEnd, sync_dry dry, shown, Console.report_lines_of_outcomes even,
    Console.dry_report_lines _ _ fun r inside => ?dry]
  case dry =>
    obtain ⟨story, -, rfl⟩ := List.mem_map.1 inside
    rfl
  refine ⟨t, stories.map (Batch.foretold p.shelf.catalog), outcomes, summary, made, even,
    ?_, ?_, ?_⟩
  · rw [Finish.output, Finish.exitCode, Option.toList_none, List.map_nil, List.append_nil]
    rfl
  · rw [Finish.output, Option.toList_none, List.map_nil, List.append_nil]
    rfl
  obtain ⟨beyond, alone⟩ | ⟨within, request, reads, asked⟩ := t.after_received w.peer
  · exact .inl ⟨beyond, alone _⟩
  refine .inr ⟨within, _, asked _, by simp only [List.length_map], ?_⟩
  intro i requested report there here
  -- The request and the block with one number come from one story.
  rw [List.map_map] at there
  obtain ⟨story, hi, rfl⟩ := Option.map_eq_some_iff.1 (List.getElem?_map .. ▸ here)
  rw [List.getElem?_map, hi] at there
  obtain rfl := Option.some.inj there
  exact ⟨_, reads _, rfl, rfl, rfl⟩

/-- The one issue that is opened is the one that the dry run has announced. -/
theorem dry_run_foretells_once :
    let w := oneStory switchedOn "# US-1: x\n\n## Notes\ny"
    let dryArgs : List Text := ["--dir", "d", "sync"]
    let liveArgs : List Text := ["--dir", "d", "sync", "--no-dry-run", "-y"]
    (execute liveArgs w).exitCode = 0 ∧ (execute dryArgs w).exitCode = 0 ∧
      (execute dryArgs w).peer = w.peer ∧
      ∃ (report : StoryReport) (request : Http.Request) (draft : Draft),
        (execute liveArgs w).peer.received = [request] ∧
        Json.decode Draft.ofJson? request.body = .ok draft ∧ report.issueTitle = draft.title := by
  intro w dryArgs liveArgs
  let given : Overrides := ⟨none, some "d", none⟩
  have asksDry : Invocation.ofArguments dryArgs = .ok ⟨.sync false false, given⟩ := by
    decide +kernel
  have asksLive : Invocation.ofArguments liveArgs = .ok ⟨.sync true true, given⟩ := by
    decide +kernel
  have configured : Config.load w.storage "p" = .ok switchedOn := one_story_configured _ _
  have loaded := Project.load_configured configured given.dir given.repo
  have ended : (execute liveArgs w).exitCode = 0 := by decide +kernel
  have sent : (execute liveArgs w).peer.received.length = 1 := by decide +kernel
  obtain ⟨t, reports, outcomes, summary, made, even, dry, live, ⟨-, unasked⟩ |
    ⟨-, requests, asked, size, each⟩⟩ := dry_run_foretells asksDry asksLive loaded rfl ended
  · rw [unasked] at sent
    exact absurd sent (by decide)
  have start : w.peer.received = [] := rfl
  rw [start, List.nil_append] at asked
  rw [asked] at sent
  obtain ⟨request, rfl⟩ := List.length_eq_one_iff.1 sent
  obtain ⟨report, rfl⟩ := List.length_eq_one_iff.1 (size.symm.trans sent)
  obtain ⟨draft, reads, title, -⟩ := each 0 request report rfl rfl
  exact ⟨ended, congrArg Result.exitCode dry, congrArg Result.peer dry, report, request, draft,
    asked, reads, title⟩

end Command

end Backlog
