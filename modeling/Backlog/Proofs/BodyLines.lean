import Backlog.Draft
import Backlog.Proofs.SectionLines
/-!
The lines of an issue's body, and reading a body as a document. A story whose texts could have come
from a document is read back from its body, section by section.

- `Story.lines_body`: the blocks of a body, line by line;
- `Story.Plain`: stored texts that are trimmed and have no heading of level two;
- `Story.section_of_body`: the section of a body is the text of its block.
-/
namespace Backlog
set_option autoImplicit false

open Document

/-- The heading line of a section, as an issue shows it. -/
def Section.headingLine (s : Section) : Text := headingMark ++ s.heading

theorem Section.heading_line_no_break (s : Section) : '\n' ∉ s.headingLine := heading_no_break s

namespace Story

/-! ## Blocks by lines -/

/-- The lines of a section's block. -/
def blockLines (story : Story) (s : Section) : List Text :=
  s.headingLine :: [] :: Text.lines (story.text s)

theorem lines_block (story : Story) (s : Section) :
    Text.lines (story.block s) = story.blockLines s := by
  have e : story.block s = s.headingLine ++ '\n' :: ([] ++ '\n' :: story.text s) := by
    simp [block, Section.headingLine, headingMark]
  rw [e, Text.lines_more s.heading_line_no_break, Text.lines_more List.not_mem_nil]
  rfl

/-- Blocks put together have the lines of each, with an empty line between neighbours. -/
theorem lines_blocks (story : Story) (s : Section) (ss : List Section) :
    [] :: Text.lines (Text.join "\n\n" ((s :: ss).map story.block)) =
      (s :: ss).flatMap fun s => [] :: story.blockLines s := by
  induction ss generalizing s with
  | nil => simp [Text.join_single, lines_block]
  | cons second ss ih =>
    have e : Text.join "\n\n" ((s :: second :: ss).map story.block) =
        story.block s ++ '\n' :: ([] ++ '\n' :: Text.join "\n\n" ((second :: ss).map story.block)) := by
      rw [List.map_cons, Text.join_more _ _ (by simp)]
      simp
    rw [List.flatMap_cons, ← ih second, e, Text.lines_append, Text.lines_more List.not_mem_nil,
      lines_block, List.cons_append]

theorem lines_body (story : Story) (h : story.shown ≠ []) :
    [] :: Text.lines story.body = story.shown.flatMap fun s => [] :: story.blockLines s := by
  unfold body
  obtain ⟨s, ss, e⟩ := List.exists_cons_of_ne_nil h
  rw [e]
  exact lines_blocks story s ss

theorem body_empty (story : Story) (h : story.shown = []) : story.body = [] := by
  unfold body
  rw [h]
  rfl

/-! ## Heading lines of blocks -/

theorem heading_line_iff {s other : Section} : IsHeadingOf s other.headingLine ↔ s = other := by
  cases s <;> cases other <;> decide

theorem level_two_of_heading {s : Section} {l : Text} (h : IsHeadingOf s l) : isLevelTwo l = true := by
  obtain ⟨blanks, rfl, _⟩ := h
  exact Text.startsWith_iff.2 ⟨s.heading ++ blanks, (List.append_assoc ..).symm⟩

theorem not_heading {s : Section} {l : Text} (h : isLevelTwo l = false) : ¬ IsHeadingOf s l :=
  fun hs => Bool.noConfusion ((level_two_of_heading hs).symm.trans h)

theorem empty_not_level_two : isLevelTwo [] = false := by decide

/-! ## Texts that a document could have -/

/-- Stored texts as reading a document stores them, and without lines that would end a section. -/
structure Plain (story : Story) : Prop where
  nonempty : ∀ s t, story.sections s = some t → t ≠ []
  trimmed : ∀ s t, story.sections s = some t → Text.trim isBlank t = t
  flat : ∀ s t, story.sections s = some t → ∀ l ∈ Text.lines t, isLevelTwo l = false

instance (story : Story) : Decidable story.Plain :=
  decidable_of_iff (∀ s ∈ Section.all, ∀ t ∈ story.sections s,
      t ≠ [] ∧ Text.trim isBlank t = t ∧ ∀ l ∈ Text.lines t, isLevelTwo l = false)
    ⟨fun h => ⟨fun s t e => (h s s.mem_all t e).1, fun s t e => (h s s.mem_all t e).2.1,
        fun s t e => (h s s.mem_all t e).2.2⟩,
      fun h s _ t e => ⟨h.nonempty s t e, h.trimmed s t e, h.flat s t e⟩⟩

variable {story : Story}

theorem sections_of_shown (s : Section) (h : s ∈ story.shown) :
    story.sections s = some (story.text s) := by
  have shows : story.hasSection s = true := (List.mem_filter.1 h).2
  unfold hasSection text at shows
  unfold text
  cases e : story.sections s with
  | none => simp [e] at shows
  | some t => rfl

theorem Plain.sections_of_hidden (plain : story.Plain) {s : Section} (h : s ∉ story.shown) :
    story.sections s = none := by
  cases e : story.sections s with
  | none => rfl
  | some t =>
    have shows : story.hasSection s = true := by
      simpa [hasSection, text, e] using plain.nonempty s t e
    exact absurd (List.mem_filter.2 ⟨s.mem_all, shows⟩) h

/-- No line of another section's block is a heading line of the section. -/
theorem Plain.no_heading_in_block (plain : story.Plain) {s other : Section}
    (ho : other ∈ story.shown) (ne : s ≠ other) :
    ∀ l ∈ [] :: story.blockLines other, ¬ IsHeadingOf s l := by
  have flat := plain.flat other _ (sections_of_shown other ho)
  intro l hl
  rcases List.mem_cons.1 hl with rfl | hl
  · exact not_heading empty_not_level_two
  · rcases List.mem_cons.1 hl with rfl | hl
    · exact fun h => ne (heading_line_iff.1 h)
    · rcases List.mem_cons.1 hl with rfl | hl
      · exact not_heading empty_not_level_two
      · exact not_heading (flat l hl)

theorem below_body (s : Section) (story : Story) :
    below? s (Text.lines story.body) =
      below? s (story.shown.flatMap fun s => [] :: story.blockLines s) := by
  have skip (ls : List Text) : below? s ([] :: ls) = below? s ls :=
    if_neg (not_heading empty_not_level_two)
  by_cases h : story.shown = []
  · rw [body_empty story h, h]
    exact skip []
  · rw [← lines_body story h, skip]

/-! ## Reading a body -/

/-- Below the heading line of a section come an empty line, its text, and the later blocks. -/
theorem Plain.below_of_shown (plain : story.Plain) {s : Section} (h : s ∈ story.shown) :
    ∃ later : List Section, below? s (Text.lines story.body) =
      some (([] :: Text.lines (story.text s)) ++ later.flatMap fun s => [] :: story.blockLines s) := by
  obtain ⟨earlier, later, split, fresh⟩ := List.eq_append_cons_of_mem h
  refine ⟨later, ?_⟩
  have others : ∀ l ∈ (earlier.flatMap fun s => [] :: story.blockLines s) ++ [[]],
      ¬ IsHeadingOf s l := by
    intro l hl
    rcases List.mem_append.1 hl with hl | hl
    · obtain ⟨other, ho, hl⟩ := List.mem_flatMap.1 hl
      have shown : other ∈ story.shown := split ▸ List.mem_append_left _ ho
      exact plain.no_heading_in_block shown (fun e : s = other => fresh (e ▸ ho)) l hl
    · rw [List.mem_singleton.1 hl]
      exact not_heading empty_not_level_two
  have found := below_first others (heading_line_iff.2 rfl)
    (([] :: Text.lines (story.text s)) ++ later.flatMap fun s => [] :: story.blockLines s)
  rw [below_body, split, ← found]
  simp [blockLines]

theorem lines_between (t : Text) :
    ([] :: Text.lines t = Text.lines ('\n' :: t)) ∧
      [] :: Text.lines t ++ [[]] = Text.lines ('\n' :: (t ++ ['\n'])) := by
  have front (u : Text) : Text.lines ('\n' :: u) = [] :: Text.lines u :=
    Text.lines_more List.not_mem_nil u
  refine ⟨(front t).symm, ?_⟩
  rw [front, Text.lines_append t [], Text.lines_last List.not_mem_nil]
  rfl

/-- The section of a body is the text of its block. -/
theorem Plain.section_of_body (plain : story.Plain) {s : Section} (h : s ∈ story.shown) :
    sectionOf s story.body = story.text s := by
  have stored := sections_of_shown s h
  have flat : ∀ l ∈ [] :: Text.lines (story.text s), (!isLevelTwo l) = true := by
    intro l hl
    rcases List.mem_cons.1 hl with rfl | hl
    · decide
    · simp [plain.flat s _ stored l hl]
  obtain ⟨later, below⟩ := plain.below_of_shown h
  rw [section_of_lines, sectionLines, below, Option.getD_some, List.takeWhile_append_of_pos flat]
  cases later with
  | nil =>
    rw [List.flatMap_nil, List.takeWhile_nil, List.append_nil, (lines_between _).1,
      Text.join_lines, ← List.singleton_append, Text.trim_append_left line_feed_blank]
    exact plain.trimmed s _ stored
  | cons next later =>
    have stop : (((next :: later).flatMap fun s => [] :: story.blockLines s).takeWhile
        fun l => !isLevelTwo l) = [[]] := by
      have hn : isLevelTwo next.headingLine = true := level_two_of_heading (heading_line_iff.2 rfl)
      simp [blockLines, empty_not_level_two, hn]
    rw [stop, (lines_between _).2, Text.join_lines, ← List.singleton_append,
      Text.trim_append_left line_feed_blank, Text.trim_append_right line_feed_blank]
    exact plain.trimmed s _ stored

/-- A body has no section that its story does not show. -/
theorem Plain.section_of_body_hidden (plain : story.Plain) {s : Section} (h : s ∉ story.shown) :
    sectionOf s story.body = [] := by
  have none_below : below? s (Text.lines story.body) = none := by
    rw [below_body]
    refine below_none fun l hl => ?_
    obtain ⟨other, ho, hl⟩ := List.mem_flatMap.1 hl
    exact plain.no_heading_in_block ho (fun e : s = other => h (e ▸ ho)) l hl
  rw [section_of_lines, sectionLines, none_below]
  rfl

theorem Plain.read_body (plain : story.Plain) (id : Text) :
    (read id story.body).sections = story.sections := by
  funext s
  rw [sections_read]
  by_cases h : s ∈ story.shown
  · have stored := sections_of_shown s h
    rw [plain.section_of_body h, stored,
      if_neg (by simpa using plain.nonempty s _ stored)]
  · rw [plain.section_of_body_hidden h, plain.sections_of_hidden h]
    rfl

/-- Reading a body gives back exactly the sections it was made from, so that plain stories with
different sections have different bodies. -/
theorem sections_round_trip (plain : story.Plain) :
    (∀ id : Text, (read id story.body).sections = story.sections) ∧
      ∀ other : Story, other.Plain → other.sections ≠ story.sections → other.body ≠ story.body := by
  refine ⟨plain.read_body, fun other plain_other ne same => ne ?_⟩
  rw [← plain_other.read_body [], ← plain.read_body [], same]

/-- Two sections far apart, one with an indented heading and with a heading mark at its end. -/
theorem sections_round_trip_pair :
    let story := ((blank "US-1").setSection .notes "a\n ## b\n##").setSection .description "### c"
    let other := (blank "US-1").setSection .notes "a\n ## b\n##"
    (read "US-2" story.body).sections = story.sections ∧ other.body ≠ story.body := by
  intro story other
  have h := sections_round_trip (by decide : story.Plain)
  exact ⟨h.1 "US-2", h.2 other (by decide) fun e =>
    absurd (congrFun e .description) (by decide)⟩

end Story

end Backlog
