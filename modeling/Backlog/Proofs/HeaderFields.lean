import Mathlib.Data.List.TakeWhile
import Backlog.Proofs.SectionLines
/-!
The header fields of a document. Each is read from the first place that has its form, and from that
place alone.

- `HeaderField`: the five fields; all but the title stand behind a mark;
- `Document.MarkedAt`: a mark with something behind it on its line;
- `Document.IsTitleLine`: a title line and its title;
- `HeaderField.capture?`: what the first place gives, before blanks and defaults are considered;
- `Document.header_by_first_place`: the header fields of a document's story.
-/
namespace Backlog
set_option autoImplicit false

/-! ## Fields -/

inductive HeaderField where
  | title
  | status
  | category
  | effort
  | sprint
  deriving DecidableEq, Repr

namespace HeaderField

/-- The label of a field that stands behind a mark. -/
def label? : HeaderField → Option Text
  | .title => none
  | .status => some "Status"
  | .category => some "Category"
  | .effort => some "Effort"
  | .sprint => some "Sprint"

def default : HeaderField → Text
  | .title => Story.unknownTitle
  | .status => Story.defaultStatus
  | .category | .effort | .sprint => Story.unknown

def of (f : HeaderField) (story : Story) : Text :=
  match f with
  | .title => story.title
  | .status => story.status
  | .category => story.category
  | .effort => story.effort
  | .sprint => story.sprint

/-- The default of a field in place of an empty value. -/
def orDefault (f : HeaderField) (value : Text) : Text := if value = [] then f.default else value

end HeaderField

namespace Document

/-! ## Rests of lines -/

theorem rest_of_line_no_break (t : Text) : '\n' ∉ restOfLine t := by
  intro m
  have h := List.mem_takeWhile_imp m
  simp at h

theorem rest_of_line_ne_nil {t : Text} :
    restOfLine t ≠ [] ↔ ∃ (c : Char) (rest : Text), t = c :: rest ∧ c ≠ '\n' := by
  cases t with
  | nil => simp [restOfLine]
  | cons c rest =>
    by_cases h : c = '\n'
    · simp [restOfLine, h]
    · simp [restOfLine, h]

theorem rest_of_line_append {l : Text} (h : '\n' ∉ l) (t : Text) :
    restOfLine (l ++ t) = l ++ restOfLine t := by
  refine List.takeWhile_append_of_pos fun c hc => ?_
  rw [bne_iff_ne]
  rintro rfl
  exact h hc

/-- The first line of a text ends at its first line feed, whatever follows. -/
theorem rest_of_line_cut (t u : Text) : restOfLine (t ++ '\n' :: u) = restOfLine t := by
  induction t with
  | nil => rfl
  | cons c t ih =>
    unfold restOfLine at ih ⊢
    by_cases h : c = '\n'
    · simp [h]
    · simp [h, ih]

theorem rest_of_line_all {l : Text} (h : '\n' ∉ l) : restOfLine l = l := by
  have e := rest_of_line_append h []
  simpa [restOfLine] using e

/-! ## Marks -/

/-- A mark stands at this place of a text, with something behind it on its line. -/
def MarkedAt (mark content : Text) (place : Nat) : Prop :=
  ∃ (c : Char) (rest : Text), content.drop place = mark ++ c :: rest ∧ c ≠ '\n'

theorem marked_at_iff {mark content : Text} {place : Nat} :
    MarkedAt mark content place ↔
      ∃ rest, Text.after? mark (content.drop place) = some rest ∧ restOfLine rest ≠ [] := by
  constructor
  · rintro ⟨c, rest, e, hc⟩
    refine ⟨c :: rest, ?_, rest_of_line_ne_nil.2 ⟨c, rest, rfl, hc⟩⟩
    rw [e, Text.after?_append]
  · rintro ⟨rest, found, inked⟩
    obtain ⟨c, tail, rfl, hc⟩ := rest_of_line_ne_nil.1 inked
    exact ⟨c, tail, (List.isPrefixOf?_eq_some_iff_append_eq.1 found).symm, hc⟩

instance (mark content : Text) (place : Nat) : Decidable (MarkedAt mark content place) :=
  decidable_of_iff
    ((Text.after? mark (content.drop place)).any (fun t => !(restOfLine t).isEmpty) = true) <| by
      rw [marked_at_iff, Option.any_eq_true]
      simp

theorem marked_here {mark : Text} {c : Char} {cs : Text} (h : MarkedAt mark (c :: cs) 0) :
    marked? mark (c :: cs) = some (restOfLine ((c :: cs).drop mark.length)) := by
  obtain ⟨rest, found, inked⟩ := marked_at_iff.1 h
  rw [List.drop_zero] at found
  have whole : (c :: cs).drop mark.length = rest := by
    rw [← List.isPrefixOf?_eq_some_iff_append_eq.1 found, List.drop_left]
  rw [marked?, found, whole]
  cases e : restOfLine rest with
  | nil => exact absurd e inked
  | cons v vs => simp only [e]

theorem marked_later {mark : Text} {c : Char} {cs : Text} (h : ¬ MarkedAt mark (c :: cs) 0) :
    marked? mark (c :: cs) = marked? mark cs := by
  rw [marked?]
  cases found : Text.after? mark (c :: cs) with
  | none => rfl
  | some rest =>
    have blank : restOfLine rest = [] := by
      by_contra inked
      exact h (marked_at_iff.2 ⟨rest, found, inked⟩)
    simp [blank]

theorem marked_at_cons {mark : Text} {c : Char} {cs : Text} {place : Nat} :
    MarkedAt mark (c :: cs) (place + 1) ↔ MarkedAt mark cs place := by
  unfold MarkedAt
  rw [List.drop_succ_cons]

theorem not_marked_at_nil (mark : Text) (place : Nat) : ¬ MarkedAt mark [] place := by
  rintro ⟨c, rest, e, -⟩
  simp at e

theorem marked_none_iff {mark content : Text} :
    marked? mark content = none ↔ ∀ place, ¬ MarkedAt mark content place := by
  induction content with
  | nil => exact iff_of_true rfl (not_marked_at_nil mark)
  | cons c cs ih =>
    constructor
    · intro missing place m
      by_cases here : MarkedAt mark (c :: cs) 0
      · rw [marked_here here] at missing
        exact absurd missing (by simp)
      · rw [marked_later here] at missing
        cases place with
        | zero => exact here m
        | succ place => exact ih.1 missing place (marked_at_cons.1 m)
    · intro nowhere
      rw [marked_later (nowhere 0)]
      exact ih.2 fun place m => nowhere (place + 1) (marked_at_cons.2 m)

theorem marked_no_break {mark content line : Text} (h : marked? mark content = some line) :
    '\n' ∉ line := by
  induction content with
  | nil => exact absurd h (by simp [marked?])
  | cons c cs ih =>
    by_cases here : MarkedAt mark (c :: cs) 0
    · rw [marked_here here] at h
      obtain rfl := Option.some.inj h
      exact rest_of_line_no_break _
    · rw [marked_later here] at h
      exact ih h

/-- The first marked place alone is read. -/
theorem marked_first {mark content : Text} {place : Nat} (h : MarkedAt mark content place)
    (first : ∀ earlier < place, ¬ MarkedAt mark content earlier) :
    marked? mark content = some (restOfLine (content.drop (place + mark.length))) := by
  induction content generalizing place with
  | nil => exact absurd h (not_marked_at_nil mark place)
  | cons c cs ih =>
    cases place with
    | zero =>
      rw [marked_here h, Nat.zero_add]
    | succ place =>
      have later : ∀ earlier < place, ¬ MarkedAt mark cs earlier := by
        intro earlier lt m
        exact first (earlier + 1) (by omega) (marked_at_cons.2 m)
      have shift : place + 1 + mark.length = place + mark.length + 1 := by omega
      rw [marked_later (first 0 (by omega)), ih (marked_at_cons.1 h) later, shift,
        List.drop_succ_cons]

/-! ## Title lines -/

/-- What stands in front of a title on its line, up to the blank behind the colon. -/
def titleMark (letters digits : Text) : Text := "# " ++ (letters ++ ("-" ++ (digits ++ ": ")))

/-- The letters and the digits of an identifier, at least one of each. -/
structure IsTitleId (letters digits : Text) : Prop where
  some_letter : letters ≠ []
  letters : ∀ c ∈ letters, c.isAlpha = true
  some_digit : digits ≠ []
  digits : ∀ c ∈ digits, isDecimalDigit c = true

/-- A line of the form `# <letters>-<digits>: <title>`, and its title. -/
def IsTitleLine (line title : Text) : Prop :=
  ∃ letters digits : Text, IsTitleId letters digits ∧ line = titleMark letters digits ++ title ∧
    title ≠ []

theorem after_run_append {p : Char → Bool} {run : Text} (some_char : run ≠ [])
    (all : ∀ c ∈ run, p c = true) {d : Char} (stop : p d = false) (t : Text) :
    afterRun? p (run ++ d :: t) = some (d :: t) := by
  cases run with
  | nil => exact absurd rfl some_char
  | cons c run =>
    obtain ⟨hc, hrun⟩ := List.forall_mem_cons.1 all
    rw [List.cons_append, afterRun?, if_pos hc, List.dropWhile_append_of_pos hrun]
    simp [stop]

theorem of_after_run {p : Char → Bool} {t rest : Text} (h : afterRun? p t = some rest) :
    ∃ run : Text, t = run ++ rest ∧ run ≠ [] ∧ ∀ c ∈ run, p c = true := by
  cases t with
  | nil => exact absurd h (by simp [afterRun?])
  | cons c cs =>
    rw [afterRun?] at h
    split at h
    next hc =>
      obtain rfl := Option.some.inj h
      refine ⟨c :: cs.takeWhile p, ?_, List.cons_ne_nil _ _, ?_⟩
      · rw [List.cons_append, List.takeWhile_append_dropWhile]
      · exact List.forall_mem_cons.2 ⟨hc, fun d hd => List.mem_takeWhile_imp hd⟩
    next => exact absurd h (by simp)

theorem no_break_in {run : Text} {p : Char → Bool} (stop : p '\n' = false)
    (all : ∀ c ∈ run, p c = true) : '\n' ∉ run := by
  intro m
  rw [all _ m] at stop
  exact Bool.noConfusion stop

theorem title_mark_no_break {letters digits : Text} (h : IsTitleId letters digits) :
    '\n' ∉ titleMark letters digits := by
  have letters_line := no_break_in (by decide) h.letters
  have digits_line := no_break_in (by decide) h.digits
  simp [titleMark, letters_line, digits_line]

theorem title_behind_mark {letters digits : Text} (h : IsTitleId letters digits) {t : Text}
    (inked : restOfLine t ≠ []) :
    titleHere? (titleMark letters digits ++ t) = some (restOfLine t) := by
  have split : titleMark letters digits ++ t =
      "# " ++ (letters ++ '-' :: (digits ++ ':' :: ' ' :: t)) := by
    simp [titleMark]
  have hyphen : Text.after? "-" ('-' :: (digits ++ ':' :: ' ' :: t)) =
      some (digits ++ ':' :: ' ' :: t) := Text.after?_append "-" _
  have colon : Text.after? ": " (':' :: ' ' :: t) = some t := Text.after?_append ": " t
  have read_letters := after_run_append (p := isLetter) h.some_letter h.letters (d := '-')
    (by decide) (digits ++ ':' :: ' ' :: t)
  have read_digits := after_run_append (p := isDecimalDigit) h.some_digit h.digits (d := ':')
    (by decide) (' ' :: t)
  rw [split, titleHere?, Text.after?_append]
  simp only [Option.bind_eq_bind, Option.bind_some, read_letters, hyphen, read_digits, colon]
  cases e : restOfLine t with
  | nil => exact absurd e inked
  | cons c cs => rfl

theorem of_title_here {t title : Text} (h : titleHere? t = some title) :
    ∃ letters digits rest : Text, IsTitleId letters digits ∧ t = titleMark letters digits ++ rest ∧
      restOfLine rest = title ∧ title ≠ [] := by
  unfold titleHere? at h
  simp only [Option.bind_eq_bind, Option.bind_eq_some_iff] at h
  obtain ⟨t₁, mark, t₂, letters_run, t₃, hyphen, t₄, digits_run, rest, colon, text⟩ := h
  obtain rfl := List.isPrefixOf?_eq_some_iff_append_eq.1 mark
  obtain ⟨letters, rfl, some_letter, hl⟩ := of_after_run letters_run
  obtain rfl := List.isPrefixOf?_eq_some_iff_append_eq.1 hyphen
  obtain ⟨digits, rfl, some_digit, hd⟩ := of_after_run digits_run
  obtain rfl := List.isPrefixOf?_eq_some_iff_append_eq.1 colon
  refine ⟨letters, digits, rest, ⟨some_letter, hl, some_digit, hd⟩, by simp [titleMark], ?_⟩
  cases e : restOfLine rest with
  | nil => simp [e] at text
  | cons c cs =>
    simp only [e, Option.some.injEq] at text
    subst text
    exact ⟨rfl, List.cons_ne_nil c cs⟩

/-- A text gives a title exactly when its first line is a title line. -/
theorem title_here_iff {t title : Text} :
    titleHere? t = some title ↔ IsTitleLine (restOfLine t) title := by
  constructor
  · intro h
    obtain ⟨letters, digits, rest, id, rfl, text, inked⟩ := of_title_here h
    refine ⟨letters, digits, id, ?_, inked⟩
    rw [rest_of_line_append (title_mark_no_break id), text]
  · rintro ⟨letters, digits, id, e, inked⟩
    -- Behind its first line a text ends or goes on with a line feed, so the title ends there too.
    have whole : restOfLine t ++ t.dropWhile (· != '\n') = t := List.takeWhile_append_dropWhile
    rw [e, List.append_assoc] at whole
    have line := rest_of_line_append (title_mark_no_break id) (title ++ t.dropWhile (· != '\n'))
    rw [whole, e] at line
    have text := List.append_cancel_left line
    have found := title_behind_mark id (t := title ++ t.dropWhile (· != '\n')) (text ▸ inked)
    rw [whole, ← text] at found
    exact found

theorem title_here_cut (t u : Text) : titleHere? (t ++ '\n' :: u) = titleHere? t := by
  refine Option.ext fun title => ?_
  rw [title_here_iff, title_here_iff, rest_of_line_cut]

theorem title_line_iff {l title : Text} (hl : '\n' ∉ l) :
    titleHere? l = some title ↔ IsTitleLine l title := by
  rw [title_here_iff, rest_of_line_all hl]

/-- The title of a document is looked for line by line. -/
theorem first_title_lines (content : Text) :
    firstAtLine? titleHere? true content = (Text.lines content).findSome? titleHere? := by
  induction content using Text.by_lines with
  | last l hl =>
    rw [first_at_line_last hl rfl, Text.lines_last hl, List.findSome?_singleton]
  | more l t hl ih =>
    rw [first_at_line_more hl, title_here_cut, ih, Text.lines_more hl, List.findSome?_cons]
    cases titleHere? l <;> rfl

theorem no_title_line_iff {l : Text} (hl : '\n' ∉ l) :
    titleHere? l = none ↔ ∀ title, ¬ IsTitleLine l title := by
  rw [Option.eq_none_iff_forall_ne_some]
  exact forall_congr' fun title => not_congr (title_line_iff hl)

theorem no_title_iff (content : Text) :
    firstAtLine? titleHere? true content = none ↔
      ∀ l ∈ Text.lines content, ∀ title, ¬ IsTitleLine l title := by
  rw [first_title_lines, List.findSome?_eq_none_iff]
  refine forall_congr' fun l => forall_congr' fun hl => ?_
  exact no_title_line_iff (Text.no_break_of_mem_lines content l hl)

theorem first_title {content : Text} {before : List Text} {line : Text} {after : List Text}
    (split : Text.lines content = before ++ line :: after)
    (first : ∀ l ∈ before, ∀ title, ¬ IsTitleLine l title) {title : Text}
    (h : IsTitleLine line title) : firstAtLine? titleHere? true content = some title := by
  have no_break (l : Text) (hl : l ∈ before ++ line :: after) : '\n' ∉ l :=
    Text.no_break_of_mem_lines content l (split ▸ hl)
  rw [first_title_lines, split, List.findSome?_eq_some_iff]
  refine ⟨before, line, after, rfl, (title_line_iff (no_break line (by simp))).2 h, ?_⟩
  intro l hl
  exact (no_title_line_iff (no_break l (List.mem_append_left _ hl))).2 (first l hl)

end Document

/-! ## Fields of a document's story -/

namespace HeaderField

open Document

/-- What the first place of a field gives, as it stands on its line. -/
def capture? (f : HeaderField) (content : Text) : Option Text :=
  match f.label? with
  | none => firstAtLine? titleHere? true content
  | some label => marked? (fieldMark label) content

theorem of_read (f : HeaderField) (id content : Text) :
    f.of (read id content) = ((f.capture? content).bind value?).getD f.default := by
  cases f <;> rfl

theorem value_of (f : HeaderField) (line : Text) :
    (value? line).getD f.default = f.orDefault (Text.trimEnd isBlank line) := by
  rw [value?, orDefault]
  cases Text.trimEnd isBlank line with
  | nil => rfl
  | cons c cs => rfl

theorem read_captured {f : HeaderField} {content line : Text} (h : f.capture? content = some line)
    (id : Text) : f.of (read id content) = f.orDefault (Text.trimEnd isBlank line) := by
  rw [of_read, h, Option.bind_some, value_of]

theorem read_default {f : HeaderField} {content : Text} (h : f.capture? content = none)
    (id : Text) : f.of (read id content) = f.default := by
  rw [of_read, h]
  rfl

theorem capture_no_break {f : HeaderField} {content line : Text}
    (h : f.capture? content = some line) : '\n' ∉ line := by
  unfold capture? at h
  split at h
  next =>
    rw [first_title_lines] at h
    obtain ⟨l, hl, found⟩ := List.exists_of_findSome?_eq_some h
    obtain ⟨letters, digits, -, e, -⟩ := title_here_iff.1 found
    intro m
    refine rest_of_line_no_break l ?_
    rw [e]
    exact List.mem_append_right _ m
  next => exact marked_no_break h

theorem default_plain (f : HeaderField) :
    f.default ≠ [] ∧ '\n' ∉ f.default ∧ ∀ c ∈ f.default.getLast?, isBlank c = false := by
  have line : f.default ≠ [] ∧ '\n' ∉ f.default := by cases f <;> decide
  have trimmed : Text.trimEnd isBlank f.default = f.default := by cases f <;> decide
  refine ⟨line.1, line.2, fun c last => ?_⟩
  rw [← trimmed] at last
  exact Text.last_trimEnd last

theorem or_default_plain (f : HeaderField) {line : Text} (h : '\n' ∉ line) :
    f.orDefault (Text.trimEnd isBlank line) ≠ [] ∧
      '\n' ∉ f.orDefault (Text.trimEnd isBlank line) ∧
      ∀ c ∈ (f.orDefault (Text.trimEnd isBlank line)).getLast?, isBlank c = false := by
  unfold orDefault
  split
  next => exact f.default_plain
  next inked =>
    refine ⟨inked, ?_, fun c last => Text.last_trimEnd last⟩
    intro m
    exact h ((Text.prefix_trimEnd line).subset m)

/-- A header field is never empty, stays on one line and does not end in blanks. -/
theorem read_plain (f : HeaderField) (id content : Text) :
    f.of (read id content) ≠ [] ∧ '\n' ∉ f.of (read id content) ∧
      ∀ c ∈ (f.of (read id content)).getLast?, isBlank c = false := by
  cases h : f.capture? content with
  | none =>
    rw [read_default h]
    exact f.default_plain
  | some line =>
    rw [read_captured h]
    exact f.or_default_plain (capture_no_break h)

end HeaderField

namespace Document

/-- The header fields of a document's story. A field behind a mark is the rest of the line at the
first place where the mark has something behind it; the title is the one of the first title line. In
both cases blanks at the end do not count, and the default stands where nothing is left or no such
place is. All fields are filled, on one line, and without blanks at their ends. -/
theorem header_by_first_place (id content : Text) :
    let story := read id content
    (∀ (f : HeaderField) (label : Text), f.label? = some label →
      ((∀ place, ¬ MarkedAt (fieldMark label) content place) → f.of story = f.default) ∧
      ∀ place, MarkedAt (fieldMark label) content place →
        (∀ earlier < place, ¬ MarkedAt (fieldMark label) content earlier) →
        f.of story = f.orDefault (Text.trimEnd isBlank
          ((content.drop (place + (fieldMark label).length)).takeWhile (· != '\n')))) ∧
    ((∀ l ∈ Text.lines content, ∀ title, ¬ IsTitleLine l title) →
      story.title = Story.unknownTitle) ∧
    (∀ (before : List Text) (line title : Text) (after : List Text),
      Text.lines content = before ++ line :: after →
      (∀ l ∈ before, ∀ title, ¬ IsTitleLine l title) → IsTitleLine line title →
      story.title = HeaderField.title.orDefault (Text.trimEnd isBlank title)) ∧
    ∀ f : HeaderField, f.of story ≠ [] ∧ '\n' ∉ f.of story ∧
      ∀ c ∈ (f.of story).getLast?, isBlank c = false := by
  intro story
  refine ⟨fun f label labelled => ⟨fun nowhere => ?_, fun place marked first => ?_⟩,
    fun untitled => ?_, fun before line title after split first h => ?_, fun f => f.read_plain id content⟩
  · have missing : f.capture? content = none := by
      rw [HeaderField.capture?, labelled]
      exact marked_none_iff.2 nowhere
    exact HeaderField.read_default missing id
  · have found : f.capture? content =
        some (restOfLine (content.drop (place + (fieldMark label).length))) := by
      rw [HeaderField.capture?, labelled]
      exact marked_first marked first
    exact HeaderField.read_captured found id
  · have missing : HeaderField.title.capture? content = none := (no_title_iff content).2 untitled
    exact HeaderField.read_default missing id
  · have found : HeaderField.title.capture? content = some title := first_title split first h
    exact HeaderField.read_captured found id

/-- A mark inside the value of a field, a mark with nothing behind it before one with a blank, and a
blank title numbered in other digits: what comes later is not asked for. -/
theorem header_by_first_place_blank :
    let before : List Text := ["see **Status**: **Status**: a ", "**Sprint**:", "**Sprint**:  ",
      "**Sprint**: 3", " # US-1: x"]
    let content := Text.join "\n" (before ++ (["# US-٣: \t", "# US-1: y"] : List Text))
    (read "US-1" content).status = "**Status**: a" ∧ (read "US-1" content).sprint = "Unknown" ∧
      (read "US-1" content).effort = "Unknown" ∧ (read "US-1" content).title = "Unknown Title" := by
  intro before content
  have h := header_by_first_place "US-1" content
  have plain : ∀ l ∈ before, '\n' ∉ l ∧ titleHere? l = none := by decide
  refine ⟨?_, ?_, ?_, ?_⟩
  · exact ((h.1 .status "Status" rfl).2 4 (by decide) (by decide)).trans (by decide)
  · exact ((h.1 .sprint "Sprint" rfl).2 43 (by decide) (by decide)).trans (by decide)
  · exact (h.1 .effort "Effort" rfl).1 (marked_none_iff.1 (by decide))
  · refine (h.2.2.1 before "# US-٣: \t" "\t" ["# US-1: y"] (by decide) ?_ ?_).trans (by decide)
    · intro l hl
      obtain ⟨no_break, untitled⟩ := plain l hl
      exact (no_title_line_iff no_break).1 untitled
    · exact (title_line_iff (by decide)).1 (by decide)

end Document

end Backlog
