import Backlog.Document
import Backlog.Proofs.Lines
import Backlog.Proofs.Trim
/-!
The sections of a document, read line by line.

- `Document.IsHeadingOf`: a heading line of a section;
- `Document.sectionLines`: the lines below the first one, up to the next heading of level two;
- `Document.section_of_lines`: the text of a section is these lines, trimmed.
-/
namespace Backlog.Document
set_option autoImplicit false

/-! ## Kinds of lines -/

/-- A heading line of a section: its heading of level two, and blanks at most behind it. -/
def IsHeadingOf (s : Section) (line : Text) : Prop :=
  ∃ blanks : Text, line = headingMark ++ s.heading ++ blanks ∧ ∀ c ∈ blanks, isBlank c = true

/-- Whether a line has nothing but blanks. -/
def isBlankLine (line : Text) : Bool := line.all isBlank

theorem blank_line_iff {l : Text} : isBlankLine l = true ↔ ∀ c ∈ l, isBlank c = true :=
  List.all_eq_true

theorem heading_behind_iff {s : Section} {rest : Text} :
    IsHeadingOf s (headingMark ++ s.heading ++ rest) ↔ isBlankLine rest = true := by
  rw [blank_line_iff]
  refine ⟨fun ⟨blanks, e, all⟩ => ?_, fun all => ⟨rest, rfl, all⟩⟩
  rwa [List.append_cancel_left e]

theorem no_heading_front {s : Section} {line : Text} (h : ¬ headingMark ++ s.heading <+: line) :
    ¬ IsHeadingOf s line := fun ⟨blanks, e, _⟩ => h ⟨blanks, e.symm⟩

instance (s : Section) (line : Text) : Decidable (IsHeadingOf s line) :=
  if h : headingMark ++ s.heading <+: line then
    decidable_of_iff (isBlankLine (line.drop (headingMark ++ s.heading).length) = true) <| by
      obtain ⟨rest, rfl⟩ := h
      rw [List.drop_left]
      exact heading_behind_iff.symm
  else .isFalse (no_heading_front h)

/-- Whether a line is a heading of level two. -/
def isLevelTwo (line : Text) : Bool := Text.startsWith headingMark line

/-- The lines below the first heading line of a section. -/
def below? (s : Section) : List Text → Option (List Text)
  | [] => none
  | l :: ls => if IsHeadingOf s l then some ls else below? s ls

/-- The lines of a section: those below its first heading line, up to the next heading of level
two. -/
def sectionLines (s : Section) (content : Text) : List Text :=
  ((below? s (Text.lines content)).getD []).takeWhile fun l => !isLevelTwo l

/-! ## Places where a line starts -/

section FirstAtLine
variable {α : Type} {here? : Text → Option α}

theorem first_at_line_skip {l : Text} (h : '\n' ∉ l) (t : Text) :
    firstAtLine? here? false (l ++ '\n' :: t) = firstAtLine? here? true t := by
  induction l with
  | nil => rfl
  | cons c l ih =>
    obtain ⟨hc, hl⟩ := Text.no_break_cons h
    rw [List.cons_append, firstAtLine?, hc, ih hl]

theorem first_at_line_rest {l : Text} (h : '\n' ∉ l) : firstAtLine? here? false l = none := by
  induction l with
  | nil => rfl
  | cons c l ih =>
    obtain ⟨hc, hl⟩ := Text.no_break_cons h
    rw [firstAtLine?, hc, ih hl]

theorem first_at_line_more {l : Text} (h : '\n' ∉ l) (t : Text) :
    firstAtLine? here? true (l ++ '\n' :: t) =
      (here? (l ++ '\n' :: t)).or (firstAtLine? here? true t) := by
  cases l with
  | nil =>
    rw [List.nil_append, firstAtLine?]
    cases here? ('\n' :: t) <;> rfl
  | cons c l =>
    obtain ⟨hc, hl⟩ := Text.no_break_cons h
    rw [List.cons_append, firstAtLine?, hc, first_at_line_skip hl]
    cases here? (c :: (l ++ '\n' :: t)) <;> rfl

/-- On one line alone the answer is the one at its start. No answer is looked for in an empty text.
-/
theorem first_at_line_last {l : Text} (h : '\n' ∉ l) (he : here? [] = none) :
    firstAtLine? here? true l = here? l := by
  cases l with
  | nil => rw [he]; rfl
  | cons c l =>
    obtain ⟨hc, hl⟩ := Text.no_break_cons h
    rw [firstAtLine?, hc, first_at_line_rest hl]
    cases here? (c :: l) <;> rfl

end FirstAtLine

/-! ## Behind a heading -/

/-- What follows the blanks behind a heading, if they reach the end of the text or the start of a
line. -/
def behindBlanks? (t : Text) : Option Text :=
  match t.dropWhile isBlank with
  | [] => some []
  | c :: cs => (afterLastBreak? (t.takeWhile isBlank)).map (· ++ c :: cs)

theorem after_heading_bind (heading t : Text) :
    afterHeading? heading t = (Text.after? (headingMark ++ heading) t).bind behindBlanks? := by
  unfold afterHeading? behindBlanks?
  cases Text.after? (headingMark ++ heading) t with
  | none => rfl
  | some rest =>
    simp only [Option.bind_some, bind, pure]
    cases rest.dropWhile isBlank with
    | nil => rfl
    | cons c cs => cases afterLastBreak? (rest.takeWhile isBlank) <;> rfl

theorem after_last_break {b : Text} (h : '\n' ∉ b) (r : Text) :
    afterLastBreak? (r ++ '\n' :: b) = some b := by
  have pass : ∀ c ∈ b.reverse, (c != '\n') = true := fun c hc =>
    bne_iff_ne.2 fun e => h (e ▸ List.mem_reverse.1 hc)
  simp [afterLastBreak?, List.takeWhile_append_of_pos pass]

theorem no_last_break {b : Text} (h : '\n' ∉ b) : afterLastBreak? b = none := by
  simp [afterLastBreak?, h]

theorem behind_blanks_all {t : Text} (h : ∀ c ∈ t, isBlank c = true) : behindBlanks? t = some [] := by
  unfold behindBlanks?
  rw [List.dropWhile_eq_nil_iff.2 h]

theorem behind_blanks_ink {b : Text} (h : ∀ c ∈ b, isBlank c = true) {c : Char}
    (hc : isBlank c = false) (cs : Text) :
    behindBlanks? (b ++ c :: cs) = (afterLastBreak? b).map (· ++ c :: cs) := by
  unfold behindBlanks?
  rw [List.dropWhile_append_of_pos h, List.takeWhile_append_of_pos h]
  simp [hc]

/-- A line with something on it is blanks and then a character that is none. -/
theorem line_with_ink {l : Text} (h : isBlankLine l = false) :
    ∃ (b : Text) (c : Char) (cs : Text),
      l = b ++ c :: cs ∧ (∀ x ∈ b, isBlank x = true) ∧ isBlank c = false := by
  induction l with
  | nil => exact absurd h (by decide)
  | cons d l ih =>
    cases hd : isBlank d with
    | false => exact ⟨[], d, l, rfl, by simp, hd⟩
    | true =>
      have hl : isBlankLine l = false := by simpa [isBlankLine, hd] using h
      obtain ⟨b, c, cs, rfl, hb, hc⟩ := ih hl
      exact ⟨d :: b, c, cs, rfl, List.forall_mem_cons.2 ⟨hd, hb⟩, hc⟩

/-- Behind a heading with something else on its line nothing is found. -/
theorem behind_blanks_none {l : Text} (hl : '\n' ∉ l) (h : isBlankLine l = false) (t : Text) :
    behindBlanks? (l ++ t) = none := by
  obtain ⟨b, c, cs, rfl, hb, hc⟩ := line_with_ink h
  rw [List.append_assoc, List.cons_append, behind_blanks_ink hb hc,
    no_last_break fun m => hl (List.mem_append_left _ m)]
  rfl

theorem line_feed_blank : ∀ c ∈ ['\n'], isBlank c = true := by
  intro c hc
  rw [List.mem_singleton.1 hc]
  exact is_blank_line_feed

theorem blank_break {r b : Text} (hr : ∀ c ∈ r, isBlank c = true) (hb : ∀ c ∈ b, isBlank c = true) :
    ∀ c ∈ r ++ '\n' :: b, isBlank c = true := by
  intro c hc
  rcases List.mem_append.1 hc with hc | hc
  · exact hr c hc
  · rcases List.mem_cons.1 hc with rfl | hc
    · exact is_blank_line_feed
    · exact hb c hc

theorem behind_blanks_line {r b : Text} (hr : ∀ c ∈ r, isBlank c = true)
    (hb : ∀ c ∈ b, isBlank c = true) (hn : '\n' ∉ b) {c : Char} (hc : isBlank c = false) (cs : Text) :
    behindBlanks? (r ++ '\n' :: (b ++ c :: cs)) = some (b ++ c :: cs) := by
  have h := behind_blanks_ink (blank_break hr hb) hc cs
  rw [after_last_break hn] at h
  simpa using h

/-- The blanks behind a heading line run over all blank lines below it, and stop where the first
line with something on it starts. -/
theorem behind_blanks_lines (t : Text) {r : Text} (hr : ∀ c ∈ r, isBlank c = true) :
    behindBlanks? (r ++ '\n' :: t) =
      some (Text.join "\n" ((Text.lines t).dropWhile isBlankLine)) := by
  -- A blank line joins the blanks in front of it, so these are arbitrary in the induction.
  induction t using Text.by_lines generalizing r with
  | last l hl =>
    rw [Text.lines_last hl]
    cases h : isBlankLine l with
    | true =>
      rw [behind_blanks_all (blank_break hr (blank_line_iff.1 h))]
      simp [h, Text.join_nil]
    | false =>
      obtain ⟨b, c, cs, rfl, hb, hc⟩ := line_with_ink h
      rw [behind_blanks_line hr hb (fun m => hl (List.mem_append_left _ m)) hc]
      simp [h, Text.join_single]
  | more l t hl ih =>
    rw [Text.lines_more hl]
    cases h : isBlankLine l with
    | true =>
      have e : r ++ '\n' :: (l ++ '\n' :: t) = (r ++ '\n' :: l) ++ '\n' :: t := by simp
      rw [e, ih (blank_break hr (blank_line_iff.1 h)), List.dropWhile_cons_of_pos h]
    | false =>
      rw [List.dropWhile_cons_of_neg (by simp [h]), ← Text.lines_more hl, Text.join_lines]
      obtain ⟨b, c, cs, rfl, hb, hc⟩ := line_with_ink h
      rw [List.append_assoc, List.cons_append]
      exact behind_blanks_line hr hb (fun m => hl (List.mem_append_left _ m)) hc _

/-! ## Heading lines -/

theorem heading_no_break (s : Section) : '\n' ∉ headingMark ++ s.heading := by cases s <;> decide

theorem after_heading_none {s : Section} {t : Text} (h : ¬ headingMark ++ s.heading <+: t) :
    afterHeading? s.heading t = none := by
  rw [after_heading_bind, Text.after?_eq_none h]
  rfl

theorem after_heading_some (s : Section) (t : Text) :
    afterHeading? s.heading (headingMark ++ s.heading ++ t) = behindBlanks? t := by
  rw [after_heading_bind, Text.after?_append]
  rfl

theorem after_heading_last {s : Section} {l : Text} (hl : '\n' ∉ l) :
    afterHeading? s.heading l = if IsHeadingOf s l then some [] else none := by
  by_cases front : headingMark ++ s.heading <+: l
  · obtain ⟨rest, rfl⟩ := front
    rw [after_heading_some]
    cases h : isBlankLine rest with
    | true => rw [if_pos (heading_behind_iff.2 h), behind_blanks_all (blank_line_iff.1 h)]
    | false =>
      have inked := behind_blanks_none (fun m => hl (List.mem_append_right _ m)) h []
      rw [List.append_nil] at inked
      rw [inked, if_neg (mt heading_behind_iff.1 (by simp [h]))]
  · rw [after_heading_none front, if_neg (no_heading_front front)]

theorem after_heading_more {s : Section} {l : Text} (hl : '\n' ∉ l) (t : Text) :
    afterHeading? s.heading (l ++ '\n' :: t) =
      if IsHeadingOf s l then some (Text.join "\n" ((Text.lines t).dropWhile isBlankLine)) else none := by
  by_cases front : headingMark ++ s.heading <+: l
  · obtain ⟨rest, rfl⟩ := front
    rw [List.append_assoc, after_heading_some]
    cases h : isBlankLine rest with
    | true => rw [if_pos (heading_behind_iff.2 h), behind_blanks_lines t (blank_line_iff.1 h)]
    | false =>
      rw [behind_blanks_none (fun m => hl (List.mem_append_right _ m)) h,
        if_neg (mt heading_behind_iff.1 (by simp [h]))]
  · have far : ¬ headingMark ++ s.heading <+: l ++ '\n' :: t :=
      fun p => front ((Text.prefix_line (heading_no_break s) l t).1 p)
    rw [after_heading_none far, if_neg (no_heading_front front)]

/-- Where the text behind a section's first heading starts, by lines. -/
theorem first_heading_lines (s : Section) (content : Text) :
    firstAtLine? (afterHeading? s.heading) true content =
      (below? s (Text.lines content)).map fun ls => Text.join "\n" (ls.dropWhile isBlankLine) := by
  have empty : afterHeading? s.heading [] = none := by cases s <;> rfl
  induction content using Text.by_lines with
  | last l hl =>
    rw [first_at_line_last hl empty, after_heading_last hl, Text.lines_last hl, below?]
    split <;> rfl
  | more l t hl ih =>
    rw [first_at_line_more hl, after_heading_more hl, ih, Text.lines_more hl, below?]
    split <;> rfl

/-! ## Up to the next heading -/

theorem mark_no_break : '\n' ∉ headingMark := by decide

theorem up_to_mark_last {l : Text} (hl : '\n' ∉ l) : Text.upTo ('\n' :: headingMark) l = l := by
  induction l with
  | nil => rfl
  | cons c l ih =>
    obtain ⟨hc, hl⟩ := Text.no_break_cons hl
    have far : ('\n' :: headingMark).isPrefixOf (c :: l) = false := by
      rw [List.isPrefixOf_cons_cons, BEq.comm, hc, Bool.false_and]
    rw [Text.upTo, far, if_neg Bool.false_ne_true, ih hl]

theorem up_to_mark_more {l : Text} (hl : '\n' ∉ l) (t : Text) :
    Text.upTo ('\n' :: headingMark) (l ++ '\n' :: t) =
      if isLevelTwo t then l else l ++ '\n' :: Text.upTo ('\n' :: headingMark) t := by
  induction l with
  | nil => rfl
  | cons c l ih =>
    obtain ⟨hc, hl⟩ := Text.no_break_cons hl
    have far : ('\n' :: headingMark).isPrefixOf (c :: (l ++ '\n' :: t)) = false := by
      rw [List.isPrefixOf_cons_cons, BEq.comm, hc, Bool.false_and]
    rw [List.cons_append, Text.upTo, far, if_neg Bool.false_ne_true, ih hl]
    split <;> rfl

theorem level_two_line {l : Text} (t : Text) : isLevelTwo (l ++ '\n' :: t) = isLevelTwo l :=
  Text.startsWith_line mark_no_break l t

theorem level_two_first {t first : Text} {rest : List Text} (e : Text.lines t = first :: rest) :
    isLevelTwo t = isLevelTwo first := by
  rw [Bool.eq_iff_iff]
  unfold isLevelTwo
  rw [Text.startsWith_iff, Text.startsWith_iff]
  exact Text.prefix_first_line mark_no_break e

/-- The part of a text before its first heading of level two, by lines. -/
theorem before_heading_lines (t : Text) :
    beforeHeading t = Text.join "\n" ((Text.lines t).takeWhile fun l => !isLevelTwo l) := by
  have unfolded (t : Text) : beforeHeading t =
      if isLevelTwo t then [] else Text.upTo ('\n' :: headingMark) t := rfl
  induction t using Text.by_lines with
  | last l hl =>
    rw [unfolded, Text.lines_last hl, up_to_mark_last hl]
    cases h : isLevelTwo l <;> simp [h, Text.join_nil, Text.join_single]
  | more l t hl ih =>
    rw [unfolded] at ih ⊢
    rw [level_two_line, Text.lines_more hl, up_to_mark_more hl]
    obtain ⟨first, rest, e⟩ := List.exists_cons_of_ne_nil (Text.lines_ne_nil t)
    have same := level_two_first e
    cases h : isLevelTwo l with
    | true => simp [h, Text.join_nil]
    | false =>
      rw [List.takeWhile_cons_of_pos (by simp [h])]
      cases ht : isLevelTwo t with
      | true =>
        rw [e, List.takeWhile_cons_of_neg (by simp [← same, ht]), Text.join_single]
        rfl
      | false =>
        have going : (Text.lines t).takeWhile (fun l => !isLevelTwo l) ≠ [] := by
          simp [e, ← same, ht]
        rw [Text.join_more _ _ going, ← ih, ht]
        simp

theorem before_heading_join {ls : List Text} (h : ∀ l ∈ ls, '\n' ∉ l) :
    beforeHeading (Text.join "\n" ls) = Text.join "\n" (ls.takeWhile fun l => !isLevelTwo l) := by
  cases ls with
  | nil => rfl
  | cons l ls =>
    rw [before_heading_lines, Text.lines_join h (List.cons_ne_nil l ls)]

theorem blank_line_not_level_two {l : Text} (h : isBlankLine l = true) : isLevelTwo l = false := by
  rw [Bool.eq_false_iff]
  intro front
  obtain ⟨rest, rfl⟩ := Text.startsWith_iff.1 front
  exact absurd (blank_line_iff.1 h '#' (by simp [headingMark])) (by decide)

/-- A blank line at the start does not count for the trimmed text. -/
theorem trim_blank_line {l : Text} (h : isBlankLine l = true) (ls : List Text) :
    Text.trim isBlank (Text.join "\n" (l :: ls)) = Text.trim isBlank (Text.join "\n" ls) := by
  rw [Text.join_cons, Text.trim_append_left (blank_line_iff.1 h)]
  cases ls with
  | nil => rfl
  | cons second ls =>
    rw [Text.join_cons, List.flatMap_cons, List.cons_append, ← List.singleton_append,
      Text.trim_append_left line_feed_blank]

theorem trim_skip_blank_lines (ls : List Text) :
    Text.trim isBlank (Text.join "\n" ((ls.dropWhile isBlankLine).takeWhile fun l => !isLevelTwo l)) =
      Text.trim isBlank (Text.join "\n" (ls.takeWhile fun l => !isLevelTwo l)) := by
  induction ls with
  | nil => rfl
  | cons l ls ih =>
    cases h : isBlankLine l with
    | false => rw [List.dropWhile_cons_of_neg (by simp [h])]
    | true =>
      rw [List.dropWhile_cons_of_pos h, ih,
        List.takeWhile_cons_of_pos (by simp [blank_line_not_level_two h]), trim_blank_line h]

theorem below_suffix {s : Section} {ls below : List Text} (h : below? s ls = some below) :
    below <:+ ls := by
  induction ls with
  | nil => exact absurd h (by simp [below?])
  | cons l ls ih =>
    rw [below?] at h
    split at h
    next => exact Option.some.inj h ▸ List.suffix_cons l ls
    next => exact (ih h).trans (List.suffix_cons l ls)

/-- The text of a section is its lines, trimmed. -/
theorem section_of_lines (s : Section) (content : Text) :
    sectionOf s content = Text.trim isBlank (Text.join "\n" (sectionLines s content)) := by
  unfold sectionOf sectionLines
  rw [first_heading_lines]
  cases h : below? s (Text.lines content) with
  | none => rfl
  | some below =>
    have no_break : ∀ l ∈ below.dropWhile isBlankLine, '\n' ∉ l := fun l m =>
      Text.no_break_of_mem_lines content l
        ((below_suffix h).subset ((List.dropWhile_suffix _).subset m))
    change Text.trim isBlank (beforeHeading (Text.join "\n" (below.dropWhile isBlankLine))) = _
    rw [before_heading_join no_break, trim_skip_blank_lines]
    rfl

/-! ## The sections of a document -/

theorem sections_foldl (text : Section → Text) (ss : List Section) (story : Story) (s : Section) :
    (ss.foldl (fun story s => story.setSection s (text s)) story).sections s =
      if s ∈ ss then (if (text s).isEmpty then none else some (text s)) else story.sections s := by
  induction ss generalizing story with
  | nil => rfl
  | cons first ss ih =>
    rw [List.foldl_cons, ih]
    by_cases hs : s ∈ ss
    · rw [if_pos hs, if_pos (List.mem_cons_of_mem _ hs)]
    · rw [if_neg hs]
      by_cases e : s = first
      · subst e
        simp [Story.setSection]
      · simp [Story.setSection, e, hs]

/-- What is stored for a section: its text, unless that is empty. -/
theorem sections_read (id content : Text) (s : Section) :
    (read id content).sections s =
      if (sectionOf s content).isEmpty then none else some (sectionOf s content) := by
  have h := sections_foldl (fun s => sectionOf s content) Section.all (header id content) s
  rwa [if_pos (Section.mem_all s)] at h

theorem text_read (id content : Text) (s : Section) :
    (read id content).text s = sectionOf s content := by
  unfold Story.text
  rw [sections_read]
  cases sectionOf s content <;> rfl

theorem below_none {s : Section} {ls : List Text} (h : ∀ l ∈ ls, ¬ IsHeadingOf s l) :
    below? s ls = none := by
  induction ls with
  | nil => rfl
  | cons l ls ih =>
    obtain ⟨hl, hls⟩ := List.forall_mem_cons.1 h
    rw [below?, if_neg hl, ih hls]

theorem below_first {s : Section} {before : List Text} (h : ∀ l ∈ before, ¬ IsHeadingOf s l)
    {line : Text} (hl : IsHeadingOf s line) (below : List Text) :
    below? s (before ++ line :: below) = some below := by
  induction before with
  | nil => exact if_pos hl
  | cons l before ih =>
    obtain ⟨first, rest⟩ := List.forall_mem_cons.1 h
    rw [List.cons_append, below?, if_neg first, ih rest]

/-- The text of a section by lines: none when no line is its heading line, and otherwise what
stands below the first one, up to the next line that is a heading of level two. -/
theorem section_text_by_lines (id content : Text) (s : Section) :
    ((∀ l ∈ Text.lines content, ¬ IsHeadingOf s l) → (read id content).text s = []) ∧
    ∀ (before : List Text) (line : Text) (below : List Text),
      Text.lines content = before ++ line :: below → (∀ l ∈ before, ¬ IsHeadingOf s l) →
      IsHeadingOf s line →
      (read id content).text s =
        Text.trim isBlank (Text.join "\n" (below.takeWhile fun l => !Text.startsWith "## " l)) := by
  rw [text_read, section_of_lines, sectionLines]
  refine ⟨fun h => ?_, fun before line below split h hl => ?_⟩
  · rw [below_none h]
    rfl
  · rw [split, below_first h hl]
    rfl

/-- A document with ends of lines in both styles, blank lines below a heading, and the heading
again further down. -/
theorem section_text_by_lines_twice :
    (read "US-1" "# US-1: x\r\n## Notes \r\n\r\n \n  one\n### two\n\n## Notes\nthree").text .notes =
        "one\n### two" ∧
      (read "US-1" "# US-1: x\r\n### Notes\n## Notes too").text .notes = [] :=
  ⟨((section_text_by_lines "US-1" _ .notes).2 ["# US-1: x\r"] "## Notes \r"
      ["\r", " ", "  one", "### two", "", "## Notes", "three"] (by decide) (by decide)
      (by decide)).trans (by decide),
    (section_text_by_lines "US-1" _ .notes).1 (by decide)⟩

end Backlog.Document
