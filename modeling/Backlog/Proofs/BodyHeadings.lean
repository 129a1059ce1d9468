import Backlog.Proofs.BodyLines
/-!
The headings of level two in an issue's body. Each shown section has its own, in order. One more can
only be the first line of a section's text, and is there exactly when trimming has moved an indented
heading to the start of its line.

- `Story.level_two_of_body`: the headings of any story's body;
- `Document.OpensIndented`: lines that open with an indented heading;
- `Document.level_two_of_trim`: these are the lines whose trimmed text starts with a heading.
-/
namespace Backlog
set_option autoImplicit false

namespace Story

/-- The headings of level two in a body: those of the blocks, each with the ones in its text. -/
theorem level_two_of_body (story : Story) :
    (Text.lines story.body).filter Document.isLevelTwo = story.shown.flatMap fun s =>
      s.headingLine :: (Text.lines (story.text s)).filter Document.isLevelTwo := by
  have block (s : Section) : ([] :: story.blockLines s).filter Document.isLevelTwo =
      s.headingLine :: (Text.lines (story.text s)).filter Document.isLevelTwo := by
    have hs := level_two_of_heading (heading_line_iff.2 (Eq.refl s))
    simp [blockLines, empty_not_level_two, hs]
  have skip (ls : List Text) : ([] :: ls).filter Document.isLevelTwo = ls.filter Document.isLevelTwo :=
    List.filter_cons_of_neg (by simp [empty_not_level_two])
  by_cases h : story.shown = []
  · rw [body_empty story h, h]
    rfl
  · rw [← skip, lines_body story h, List.filter_flatMap]
    simp only [block]

end Story

namespace Document

/-! ## Trimmed texts -/

/-- The first of the lines that is not blank reads as a heading of level two behind its blanks, and
more than blanks follows its mark. -/
def OpensIndented (ls : List Text) : Prop :=
  ∃ (blanks : List Text) (line rest : Text) (later : List Text),
    ls = blanks ++ line :: later ∧ (∀ l ∈ blanks, isBlankLine l = true) ∧
      Text.trimStart isBlank line = "## " ++ rest ∧ ∃ l ∈ rest :: later, isBlankLine l = false

theorem level_two_of_trimEnd (t : Text) : isLevelTwo (Text.trimEnd isBlank t) = true ↔
    ∃ rest : Text, t = headingMark ++ rest ∧ isBlankLine rest = false := by
  rw [isLevelTwo, Text.startsWith_iff]
  constructor
  · intro front
    obtain ⟨rest, rfl⟩ := front.trans (Text.prefix_trimEnd t)
    refine ⟨rest, rfl, ?_⟩
    rw [Bool.eq_false_iff]
    intro blank
    rw [Text.trimEnd_append (blank_line_iff.1 blank)] at front
    exact absurd front (by decide)
  · rintro ⟨rest, rfl, ink⟩
    obtain ⟨b, c, cs, rfl, -, hc⟩ := line_with_ink ink
    rw [Text.trimEnd_append_keep ⟨c, by simp, hc⟩]
    exact List.prefix_append headingMark _

theorem opens_indented_blank {l : Text} (h : isBlankLine l = true) (ls : List Text) :
    OpensIndented (l :: ls) ↔ OpensIndented ls := by
  constructor
  · rintro ⟨blanks, line, rest, later, split, hb, front, ink⟩
    cases blanks with
    | nil =>
      obtain ⟨rfl, rfl⟩ := List.cons.inj split
      rw [Text.trimStart_all (blank_line_iff.1 h)] at front
      exact absurd front (by simp)
    | cons b blanks =>
      obtain ⟨rfl, rfl⟩ := List.cons.inj split
      exact ⟨blanks, line, rest, later, rfl, (List.forall_mem_cons.1 hb).2, front, ink⟩
  · rintro ⟨blanks, line, rest, later, rfl, hb, front, ink⟩
    exact ⟨l :: blanks, line, rest, later, rfl, List.forall_mem_cons.2 ⟨h, hb⟩, front, ink⟩

theorem opens_indented_ink {l : Text} (h : isBlankLine l = false) (ls : List Text) :
    OpensIndented (l :: ls) ↔ ∃ rest : Text,
      Text.trimStart isBlank l = headingMark ++ rest ∧ ∃ l ∈ rest :: ls, isBlankLine l = false := by
  constructor
  · rintro ⟨blanks, line, rest, later, split, hb, front, ink⟩
    cases blanks with
    | nil =>
      obtain ⟨rfl, rfl⟩ := List.cons.inj split
      exact ⟨rest, front, ink⟩
    | cons b blanks =>
      obtain ⟨rfl, rfl⟩ := List.cons.inj split
      exact absurd (hb l List.mem_cons_self) (by simp [h])
  · rintro ⟨rest, front, ink⟩
    exact ⟨[], l, rest, ls, rfl, List.forall_mem_nil _, front, ink⟩

theorem blank_behind_breaks (t : Text) (ls : List Text) :
    isBlankLine (t ++ ls.flatMap fun l => '\n' :: l) = false ↔
      ∃ l ∈ t :: ls, isBlankLine l = false := by
  have breaks (ls : List Text) :
      isBlankLine (ls.flatMap fun l => '\n' :: l) = ls.all isBlankLine := by
    simp only [isBlankLine, List.all_flatMap, List.all_cons, is_blank_line_feed, Bool.true_and]
    rfl
  have split : isBlankLine (t ++ ls.flatMap fun l => '\n' :: l) = (t :: ls).all isBlankLine := by
    rw [List.all_cons, ← breaks]
    exact List.all_append
  rw [split, List.all_eq_false]
  simp

theorem mark_within_line (l : Text) (ls : List Text) {rest : Text}
    (h : l ++ (ls.flatMap fun l => '\n' :: l) = headingMark ++ rest) :
    ∃ mine : Text, l = headingMark ++ mine ∧ rest = mine ++ ls.flatMap fun l => '\n' :: l := by
  have front : headingMark <+: l := by
    cases ls with
    | nil => exact ⟨rest, by simpa using h.symm⟩
    | cons second ls =>
      rw [List.flatMap_cons, List.cons_append] at h
      exact (Text.prefix_line mark_no_break l _).1 ⟨rest, h.symm⟩
  obtain ⟨mine, rfl⟩ := front
  rw [List.append_assoc] at h
  exact ⟨mine, rfl, (List.append_cancel_left h).symm⟩

/-- The trimmed text of lines starts with a heading exactly when they open with an indented one. -/
theorem level_two_of_trim (ls : List Text) :
    isLevelTwo (Text.trim isBlank (Text.join "\n" ls)) = true ↔ OpensIndented ls := by
  induction ls with
  | nil =>
    refine ⟨fun h => absurd h (by decide), ?_⟩
    rintro ⟨blanks, line, rest, later, split, -⟩
    exact absurd split (by simp)
  | cons l ls ih =>
    cases h : isBlankLine l with
    | true => rw [trim_blank_line h, ih, opens_indented_blank h]
    | false =>
      have ink : ∃ c ∈ l, isBlank c = false := by
        obtain ⟨b, c, cs, rfl, -, hc⟩ := line_with_ink h
        exact ⟨c, by simp, hc⟩
      rw [opens_indented_ink h, Text.join_cons, Text.trim, Text.trimStart_append_keep ink,
        level_two_of_trimEnd]
      constructor
      · rintro ⟨rest, e, hr⟩
        obtain ⟨mine, front, rfl⟩ := mark_within_line _ ls e
        exact ⟨mine, front, (blank_behind_breaks mine ls).1 hr⟩
      · rintro ⟨mine, front, hm⟩
        exact ⟨_, by rw [front, List.append_assoc], (blank_behind_breaks mine ls).2 hm⟩

/-! ## Texts of a document -/

theorem section_line {s : Section} {content l : Text} (h : l ∈ sectionLines s content) :
    isLevelTwo l = false ∧ '\n' ∉ l := by
  unfold sectionLines at h
  refine ⟨by simpa using List.mem_takeWhile_imp h, ?_⟩
  have hl := (List.takeWhile_sublist _).subset h
  cases e : below? s (Text.lines content) with
  | none => simp [e] at hl
  | some below =>
    rw [e] at hl
    exact Text.no_break_of_mem_lines content l ((below_suffix e).subset hl)

/-- Past its first line the text of a section has no heading of level two. -/
theorem section_text_tail (s : Section) (content : Text) :
    ∀ l ∈ (Text.lines (sectionOf s content)).tail, isLevelTwo l = false := by
  intro l hl
  rw [Bool.eq_false_iff]
  intro front
  -- A heading behind a line feed of the trimmed text is one of the text before trimming.
  have inside : '\n' :: headingMark <:+: sectionOf s content :=
    (Text.infix_iff_line mark_no_break _).2 ⟨l, hl, Text.startsWith_iff.1 front⟩
  rw [section_of_lines] at inside
  obtain ⟨m, hm, lead⟩ :=
    (Text.infix_iff_line mark_no_break _).1 (inside.trans (Text.trim_infix _))
  by_cases empty : sectionLines s content = []
  · rw [empty, Text.join_nil] at hm
    exact absurd hm List.not_mem_nil
  · rw [Text.lines_join (fun l h => (section_line h).2) empty] at hm
    have plain := (section_line (List.mem_of_mem_tail hm)).1
    rw [isLevelTwo, Text.startsWith_iff.2 lead] at plain
    exact Bool.noConfusion plain

theorem level_two_of_section (s : Section) (content : Text) :
    (Text.lines (sectionOf s content)).filter isLevelTwo =
      ((Text.lines (sectionOf s content)).take 1).filter isLevelTwo := by
  obtain ⟨first, rest, e⟩ := List.exists_cons_of_ne_nil (Text.lines_ne_nil (sectionOf s content))
  have tail := section_text_tail s content
  rw [e, List.tail_cons] at tail
  have none_later : rest.filter isLevelTwo = [] :=
    List.filter_eq_nil_iff.2 fun l hl => by simp [tail l hl]
  rw [e, List.filter_cons, none_later, List.take_succ_cons, List.take_zero, List.filter_cons,
    List.filter_nil]

theorem no_level_two_of_section (s : Section) (content : Text) :
    (Text.lines (sectionOf s content)).filter isLevelTwo = [] ↔
      ¬ OpensIndented (sectionLines s content) := by
  rw [level_two_of_section, ← level_two_of_trim, ← section_of_lines]
  obtain ⟨first, rest, e⟩ := List.exists_cons_of_ne_nil (Text.lines_ne_nil (sectionOf s content))
  rw [level_two_first e, e]
  simp

/-! ## Bodies of documents -/

theorem flatMap_cons_length {α β : Type} (f : α → β) (g : α → List β) (xs : List α) :
    xs.length ≤ (xs.flatMap fun x => f x :: g x).length := by
  induction xs with
  | nil => exact Nat.le_refl 0
  | cons x xs ih =>
    rw [List.flatMap_cons, List.length_append, List.length_cons, List.length_cons]
    omega

theorem flatMap_cons_eq_map {α β : Type} (f : α → β) (g : α → List β) (xs : List α) :
    (xs.flatMap fun x => f x :: g x) = xs.map f ↔ ∀ x ∈ xs, g x = [] := by
  induction xs with
  | nil => simp
  | cons x xs ih =>
    rw [List.forall_mem_cons, ← ih, List.flatMap_cons, List.map_cons, List.cons_append]
    constructor
    · intro h
      have tails := (List.cons.inj h).2
      have count := congrArg List.length tails
      rw [List.length_append, List.length_map] at count
      have bound := flatMap_cons_length f g xs
      have hx : g x = [] := List.eq_nil_of_length_eq_zero (by omega)
      rw [hx] at tails
      exact ⟨hx, tails⟩
    · rintro ⟨hx, rest⟩
      rw [hx, rest, List.nil_append]

/-- The headings of level two in the body of a document's story. Beside the headings of the shown
sections there are at most first lines of their texts, and there is none of these exactly when no
section opens with an indented heading. -/
theorem level_two_of_document (id content : Text) :
    let story := read id content
    (Text.lines story.body).filter isLevelTwo = (story.shown.flatMap fun s =>
        s.headingLine :: ((Text.lines (story.text s)).take 1).filter isLevelTwo) ∧
      ((Text.lines story.body).filter isLevelTwo = story.shown.map Section.headingLine ↔
        ∀ s : Section, ¬ OpensIndented (sectionLines s content)) := by
  intro story
  have texts (s : Section) : story.text s = sectionOf s content := text_read id content s
  refine ⟨?_, ?_⟩
  · rw [Story.level_two_of_body]
    simp only [texts, level_two_of_section]
  · rw [Story.level_two_of_body, flatMap_cons_eq_map]
    simp only [texts, no_level_two_of_section]
    refine ⟨fun h s => ?_, fun h s _ => h s⟩
    by_cases shown : s ∈ story.shown
    · exact h s shown
    · have empty : sectionOf s content = [] := by
        rw [← texts]
        simpa [Story.shown, Story.hasSection, s.mem_all] using shown
      rw [← no_level_two_of_section, empty]
      rfl

/-- An indented heading below a heading line becomes a heading of the body. -/
theorem level_two_of_document_indented :
    ¬ ∀ id content : Text, (Text.lines (read id content).body).filter isLevelTwo =
      (read id content).shown.map Section.headingLine :=
  fun h => absurd (h "US-1" "## Notes\n  ## x\n") (by decide)

end Document

end Backlog
